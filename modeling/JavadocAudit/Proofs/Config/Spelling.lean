import JavadocAudit.Config.Decode
import Mathlib.Data.Char
import Mathlib.Data.List.Basic
import Mathlib.Data.List.Pairwise

/-!
# The spellings of the options

An option can be given under its property name or under its plain name. As long as no option is
given in both spellings, it makes no difference which of them a mapping uses, nor in which order it
gives its options: the settings are the same, and so are the issues, each at the place that its key
now has.

The spellings of two options differ, and a key that is not text is never shown like a spelling. So a
change of spellings moves no option to another one, and leaves all other keys alone.
-/

namespace JavadocAudit.Config

/-- A mapping gives a value for each of its keys once. -/
def IsMapping (entries : List (Scalar × Value)) : Prop :=
  entries.Pairwise fun first second => first.1.sameKey second.1 = false

instance (entries : List (Scalar × Value)) : Decidable (IsMapping entries) :=
  inferInstanceAs (Decidable (entries.Pairwise _))

namespace Value

variable {entries : List (Scalar × Value)} {key : String} {value : Value}

theorem mem_of_entry?_eq_some (h : entry? entries key = some value) :
    (.text key, value) ∈ entries := by
  obtain ⟨entry, found, rfl⟩ := Option.map_eq_some_iff.mp h
  have same : entry.1 = .text key := by simpa using List.find?_some found
  exact same ▸ List.mem_of_find?_eq_some found

theorem entry?_eq_none_iff : entry? entries key = none ↔ ∀ value, (.text key, value) ∉ entries := by
  simp only [Option.map_eq_none_iff, entry?, List.find?_eq_none, beq_iff_eq]
  constructor
  · intro none value member
    exact none _ member rfl
  · rintro none ⟨_, value⟩ member rfl
    exact none value member

/-- A value that is the only one of its key is found. -/
theorem entry?_of_only (member : (.text key, value) ∈ entries)
    (only : ∀ other, (.text key, other) ∈ entries → other = value) :
    entry? entries key = some value := by
  cases found : entry? entries key with
  | none => exact absurd member (entry?_eq_none_iff.mp found value)
  | some other => rw [only other (mem_of_entry?_eq_some found)]

end Value

/-- The values of a key of a mapping are the same. -/
theorem IsMapping.value_unique {entries : List (Scalar × Value)} (h : IsMapping entries)
    {key : String} {value value' : Value} (member : (.text key, value) ∈ entries)
    (member' : (.text key, value') ∈ entries) : value = value' := by
  induction entries with
  | nil => cases member
  | cons entry rest ih =>
      obtain ⟨first, later⟩ := List.pairwise_cons.mp h
      -- A key that is given later on is not given by the first entry.
      have differ {other : Value} (found : (.text key, other) ∈ rest) : entry.1 ≠ .text key := by
        intro same
        have apart := first _ found
        simp [same, Scalar.sameKey, Scalar.asNumber?] at apart
      rcases List.mem_cons.mp member with rfl | found
      · rcases List.mem_cons.mp member' with same | found'
        · exact (Prod.mk.inj same).2.symm
        · exact absurd rfl (differ found')
      · rcases List.mem_cons.mp member' with rfl | found'
        · exact absurd rfl (differ found)
        · exact ih later found found'

namespace Field

/-- The two names of an option. -/
def spellings (field : Field) : List String := [field.property, field.name]

/-- The names of all options. -/
def allSpellings : List String := all.flatMap spellings

theorem mem_allSpellings {key : String} :
    key ∈ allSpellings ↔ ∃ field ∈ all, key ∈ field.spellings := List.mem_flatMap

/-- No name stands for two options. -/
theorem eq_of_mem_spellings {field field' : Field} (member : field ∈ all) (member' : field' ∈ all)
    {key : String} (h : key ∈ field.spellings) (h' : key ∈ field'.spellings) : field = field' := by
  have disjoint : all.Pairwise fun f g => ∀ key ∈ f.spellings, key ∉ g.spellings := by
    decide +kernel
  have symm : Std.Symm fun f g : Field => ∀ key ∈ f.spellings, key ∉ g.spellings :=
    ⟨fun f g apart key inSecond inFirst => apart key inFirst inSecond⟩
  by_contra different
  exact disjoint.forall member member' different key h h'

/-- A name of an option has letters and underscores only, and these come after the digits. -/
theorem not_mem_allSpellings_of_mem {key : String} {c : Char} (member : c ∈ key.toList)
    (early : c < 'A') : key ∉ allSpellings := by
  have late : ∀ key ∈ allSpellings, key.toList.all (fun c => 'A' ≤ c) = true := by decide +kernel
  intro spelled
  have inOrder := List.all_eq_true.mp (late key spelled) c member
  exact absurd early (not_lt.mpr (of_decide_eq_true inOrder))

end Field

theorem point_mem_pointed (digits : List Char) (place : Int) :
    '.' ∈ Binary64.pointed digits place := by
  unfold Binary64.pointed
  split <;> simp

/-- The text of a number has a point or the sign of an exponent, unless it is a word. -/
theorem text_not_mem_allSpellings (x : Binary64) : x.text ∉ Field.allSpellings := by
  cases x with
  | nan => decide +kernel
  | infinite negative => cases negative <;> decide +kernel
  | finite negative mantissa exponent =>
      have signed (sign : String) (body rest : List Char) (c : Char) :
          c ∈ (sign ++ String.ofList (body ++ 'e' :: c :: rest)).toList := by simp
      simp only [Binary64.text]
      split
      · exact Field.not_mem_allSpellings_of_mem (c := '.') (by simp) (by decide)
      · split
        · apply Field.not_mem_allSpellings_of_mem (c := '.')
          · simp [point_mem_pointed]
          · decide
        · apply Field.not_mem_allSpellings_of_mem (signed _ _ _ _)
          split <;> decide

theorem toString_not_mem_allSpellings (n : Int) : toString n ∉ Field.allSpellings := by
  rw [Int.toString_eq_repr, Int.repr_eq_if]
  split
  · obtain ⟨c, digit⟩ := List.exists_mem_of_ne_nil _ (Nat.toDigits_ne_nil (n := n.toNat) (b := 10))
    have isDigit : c.isDigit = true := Nat.isDigit_of_mem_toDigits (by decide) (by decide) digit
    refine Field.not_mem_allSpellings_of_mem (c := c) (by simpa using digit) ?_
    have low : c ≤ '9' := by
      simp only [Char.isDigit, Bool.and_eq_true, decide_eq_true_eq] at isDigit
      exact isDigit.2
    exact lt_of_le_of_lt low (by decide)
  · exact Field.not_mem_allSpellings_of_mem (c := '-') (by simp) (by decide)

/-- A key that is not text is not shown like a name of an option. -/
theorem display_not_mem_allSpellings {key : Scalar} (notText : ∀ s, key ≠ .text s) :
    key.display ∉ Field.allSpellings := by
  have closed (text : String) : ')' ∈ (text ++ ")").toList := by simp
  cases key with
  | text s => exact absurd rfl (notText s)
  | null => decide +kernel
  | bool b => cases b <;> decide +kernel
  | int n => exact toString_not_mem_allSpellings n
  | float x => exact text_not_mem_allSpellings x
  | bytes data =>
      have opened (quote : Char) (body : List Char) :
          quote ∈ (String.ofList ('b' :: quote :: body ++ [quote])).toList := by simp
      apply Field.not_mem_allSpellings_of_mem (opened _ _)
      split <;> decide
  | date day => exact Field.not_mem_allSpellings_of_mem (closed _) (by decide)
  | moment day time => exact Field.not_mem_allSpellings_of_mem (closed _) (by decide)

theorem Issue.Step.ofKey_of_not_text {key : Scalar} (notText : ∀ s, key ≠ .text s) :
    (∃ n, ofKey key = .index n) ∨ ofKey key = .name key.display := by
  cases key with
  | text s => exact absurd rfl (notText s)
  | bool b => exact .inl ⟨_, rfl⟩
  | int n =>
      simp only [ofKey]
      split
      · exact .inl ⟨n, rfl⟩
      · exact .inr rfl
  | _ => exact .inr rfl

/-! ## Which value an option has -/

namespace Field

variable {field : Field} {entries : List (Scalar × Value)} {key : String} {value : Value}

/-- A mapping gives an option a value under one of its names. -/
def Gives (field : Field) (entries : List (Scalar × Value)) (key : String) (value : Value) : Prop :=
  key ∈ field.spellings ∧ (.text key, value) ∈ entries

/-- Every option is given under one name at most, and has one value there. -/
def Unambiguous (entries : List (Scalar × Value)) : Prop :=
  ∀ field ∈ all, ∀ key value key' value', field.Gives entries key value →
    field.Gives entries key' value' → key = key' ∧ value = value'

/-- No option is given in both its spellings. -/
def GivenOnce (entries : List (Scalar × Value)) : Prop :=
  ∀ field ∈ all, field.property ≠ field.name →
    (Value.entry? entries field.property).isNone ∨ (Value.entry? entries field.name).isNone

instance (entries : List (Scalar × Value)) : Decidable (GivenOnce entries) :=
  inferInstanceAs (Decidable (∀ field ∈ all, _))

theorem unambiguous_of_givenOnce (mapping : IsMapping entries) (once : GivenOnce entries) :
    Unambiguous entries := by
  have absent {key : String} {value : Value} (none : (Value.entry? entries key).isNone)
      (member : (.text key, value) ∈ entries) : False :=
    Value.entry?_eq_none_iff.mp (Option.isNone_iff_eq_none.mp none) value member
  rintro field member key value key' value' ⟨spelled, given⟩ ⟨spelled', given'⟩
  have sameKey : key = key' := by
    -- Two keys would be the two names of the option, and one of these is not given.
    by_contra different
    have twoNames : field.property ≠ field.name := by
      intro same
      simp_all [spellings]
    rcases List.mem_pair.mp spelled with rfl | rfl
    · obtain rfl := (List.mem_pair.mp spelled').resolve_left (Ne.symm different)
      exact (once field member twoNames).elim (absent · given) (absent · given')
    · obtain rfl := (List.mem_pair.mp spelled').resolve_right (Ne.symm different)
      exact (once field member twoNames).elim (absent · given') (absent · given)
  subst sameKey
  exact ⟨rfl, mapping.value_unique given given'⟩

theorem exists_gives (spelled : key ∈ field.spellings)
    (given : (Value.entry? entries key).isSome = true) :
    ∃ value, field.Gives entries key value := by
  obtain ⟨value, found⟩ := Option.isSome_iff_exists.mp given
  exact ⟨value, spelled, Value.mem_of_entry?_eq_some found⟩

theorem gives_of_keyIn (h : field.keyIn entries = some key) :
    ∃ value, field.Gives entries key value := by
  rw [keyIn] at h
  split at h
  next given =>
    obtain rfl := Option.some.inj h
    exact exists_gives List.mem_cons_self given
  next =>
    split at h
    next given =>
      obtain rfl := Option.some.inj h
      exact exists_gives (List.mem_cons_of_mem _ List.mem_cons_self) given
    next => cases h

theorem not_gives_of_keyIn_eq_none (h : field.keyIn entries = none) :
    ¬ field.Gives entries key value := by
  rintro ⟨spelled, given⟩
  have found : (Value.entry? entries key).isSome = true := by
    by_contra none
    exact Value.entry?_eq_none_iff.mp (by simpa using none) value given
  rw [keyIn] at h
  rcases List.mem_pair.mp spelled with rfl | rfl
  · rw [if_pos found] at h
    cases h
  · rw [if_pos found] at h
    split at h <;> cases h

section Unambiguous

variable (unambiguous : Unambiguous entries) (member : field ∈ all)
include unambiguous member

theorem Gives.keyIn (gives : field.Gives entries key value) : field.keyIn entries = some key := by
  cases used : field.keyIn entries with
  | none => exact absurd gives (not_gives_of_keyIn_eq_none used)
  | some key' =>
      obtain ⟨value', gives'⟩ := gives_of_keyIn used
      rw [(unambiguous field member _ _ _ _ gives gives').1]

/-- The effect of an option that is given. -/
theorem Gives.effect (gives : field.Gives entries key value) :
    field.effect entries = (field.apply value).below (.name key) := by
  have found : Value.entry? entries key = some value :=
    Value.entry?_of_only gives.2 fun _ given =>
      (unambiguous field member _ _ _ _ ⟨gives.1, given⟩ gives).2
  simp only [Field.effect, gives.keyIn unambiguous member, found]

end Unambiguous

theorem effect_of_not_gives (none : ∀ key value, ¬ field.Gives entries key value) :
    field.effect entries = .ok id := by
  cases used : field.keyIn entries with
  | none => simp only [effect, used]
  | some key =>
      obtain ⟨value, gives⟩ := gives_of_keyIn used
      exact absurd gives (none key value)

end Field

/-- The issue with a key that no option uses. -/
def unknownIssue? (used : List String) : Scalar → Option Issue
  | .text name => if used.contains name then none else some ⟨[.name name], .extraForbidden⟩
  | key => some ⟨[.ofKey key], .invalidKey⟩

theorem unknownKeys_eq (used : List String) (entries : List (Scalar × Value)) :
    unknownKeys used entries =
      if (entries.filterMap fun entry => unknownIssue? used entry.1).isEmpty then .ok ()
      else .error (.issues (entries.filterMap fun entry => unknownIssue? used entry.1)) := rfl

/-- The keys that are refused are those that are the name of no option at all. -/
theorem unknownKeys_of_unambiguous {entries : List (Scalar × Value)}
    (unambiguous : Field.Unambiguous entries) :
    unknownKeys (Field.all.filterMap (·.keyIn entries)) entries =
      unknownKeys Field.allSpellings entries := by
  have same : (entries.filterMap fun entry =>
        unknownIssue? (Field.all.filterMap (·.keyIn entries)) entry.1) =
      entries.filterMap fun entry => unknownIssue? Field.allSpellings entry.1 := by
    refine List.filterMap_congr ?_
    rintro ⟨key, value⟩ given
    cases key with
    | text name =>
        have spelled :
            name ∈ Field.all.filterMap (·.keyIn entries) ↔ name ∈ Field.allSpellings := by
          rw [List.mem_filterMap, Field.mem_allSpellings]
          constructor
          · rintro ⟨field, member, used⟩
            obtain ⟨_, gives⟩ := Field.gives_of_keyIn used
            exact ⟨field, member, gives.1⟩
          · rintro ⟨field, member, named⟩
            exact ⟨field, member, Field.Gives.keyIn unambiguous member ⟨named, given⟩⟩
        simp only [unknownIssue?, List.contains_iff_mem, spelled]
    | _ => rfl
  rw [unknownKeys_eq, unknownKeys_eq, same]

/-! ## Another spelling -/

/-- A change of keys that exchanges names of the same option only. -/
def Respells (rename : String → String) : Prop :=
  ∀ key, rename key = key ∨
    ∃ field ∈ Field.all, key ∈ field.spellings ∧ rename key ∈ field.spellings

/-- A key under its new name; a key that is not text stays as it is. -/
def Scalar.respell (rename : String → String) : Scalar → Scalar
  | .text name => .text (rename name)
  | key => key

/-- A mapping with its keys under their new names. -/
def respellKeys (rename : String → String) (entries : List (Scalar × Value)) :
    List (Scalar × Value) :=
  entries.map fun entry => (entry.1.respell rename, entry.2)

theorem mem_respelled_iff {rename : String → String} {entries respelled : List (Scalar × Value)}
    (perm : respelled.Perm (respellKeys rename entries)) {key : String} {value : Value} :
    (.text key, value) ∈ respelled ↔ ∃ old, rename old = key ∧ (.text old, value) ∈ entries := by
  rw [perm.mem_iff, respellKeys, List.mem_map]
  constructor
  · rintro ⟨⟨scalar, _⟩, given, same⟩
    obtain ⟨renamed, rfl⟩ := Prod.mk.inj same
    cases scalar with
    | text old => exact ⟨old, Scalar.text.inj renamed, given⟩
    | _ => cases renamed
  · rintro ⟨old, rfl, given⟩
    exact ⟨_, given, rfl⟩

/-- An issue at the place that its key has under its new name. -/
def Issue.respell (rename : String → String) (issue : Issue) : Issue :=
  match issue.path with
  | .name key :: path => ⟨.name (rename key) :: path, issue.rule⟩
  | _ => issue

namespace Decoded

/-- Two outcomes that are the same once the keys have their new names: the same value, or the same
issues in any order. -/
inductive Respelled (rename : String → String) {α : Type} : Decoded α → Decoded α → Prop
  | ok (a : α) : Respelled rename (.ok a) (.ok a)
  | issues {before after : List Issue} (perm : after.Perm (before.map (Issue.respell rename))) :
      Respelled rename (.error (.issues before)) (.error (.issues after))
  | raised (fault : Pattern.Fault) :
      Respelled rename (.error (.raised fault)) (.error (.raised fault))

namespace Respelled

variable {rename : String → String} {α β : Type}

theorem map {first second : Decoded α} (h : Respelled rename first second) (f : α → β) :
    Respelled rename (first.map f) (second.map f) := by
  cases h with
  | ok a => exact .ok (f a)
  | issues perm => exact .issues perm
  | raised fault => exact .raised fault

theorem both {first second : Decoded α} {first' second' : Decoded β}
    (h : Respelled rename first second) (h' : Respelled rename first' second') :
    Respelled rename (first.both first') (second.both second') := by
  cases h with
  | ok a =>
      cases h' with
      | ok b => exact .ok (a, b)
      | issues perm => exact .issues perm
      | raised fault => exact .raised fault
  | issues perm =>
      cases h' with
      | ok b => exact .issues perm
      | issues perm' =>
          refine .issues ?_
          rw [List.map_append]
          exact perm.append perm'
      | raised fault => exact .raised fault
  | raised fault =>
      cases h' <;> exact .raised fault

/-- The outcomes for the members of a list, taken together. -/
theorem all_map {γ : Type} {outcome outcome' : γ → Decoded α} {members : List γ}
    (h : ∀ member ∈ members, Respelled rename (outcome member) (outcome' member)) :
    Respelled rename (all (members.map outcome)) (all (members.map outcome')) := by
  induction members with
  | nil => exact .ok []
  | cons member rest ih =>
      have first := h member List.mem_cons_self
      have later := ih fun other inRest => h other (List.mem_cons_of_mem member inRest)
      exact (first.both later).map _

/-- What is read from a value of a key is the same under the new name of the key. -/
theorem below (decoded : Decoded α) (key : String) :
    Respelled rename (decoded.below (.name key)) (decoded.below (.name (rename key))) := by
  rcases decoded with (issues | fault) | a
  · refine .issues (.of_eq ?_)
    rw [List.map_map]
    rfl
  · exact .raised fault
  · exact .ok a

end Respelled

end Decoded

namespace Respells

variable {rename : String → String} (respells : Respells rename)
include respells

theorem mem_spellings_iff {field : Field} (member : field ∈ Field.all) {key : String} :
    rename key ∈ field.spellings ↔ key ∈ field.spellings := by
  rcases respells key with same | ⟨other, inAll, before, after⟩
  · rw [same]
  · constructor
    · intro h
      exact Field.eq_of_mem_spellings inAll member after h ▸ before
    · intro h
      exact Field.eq_of_mem_spellings inAll member before h ▸ after

theorem mem_allSpellings_iff {key : String} :
    rename key ∈ Field.allSpellings ↔ key ∈ Field.allSpellings := by
  rw [Field.mem_allSpellings, Field.mem_allSpellings]
  exact exists_congr fun field => and_congr_right fun member => respells.mem_spellings_iff member

theorem eq_self {key : String} (h : key ∉ Field.allSpellings) : rename key = key := by
  rcases respells key with same | ⟨field, member, named, -⟩
  · exact same
  · exact absurd (Field.mem_allSpellings.mpr ⟨field, member, named⟩) h

/-- A key that is not text stays where it is. -/
theorem respell_ofKey {key : Scalar} (notText : ∀ s, key ≠ .text s) (rule : Issue.Rule) :
    Issue.respell rename ⟨[.ofKey key], rule⟩ = ⟨[.ofKey key], rule⟩ := by
  rcases Issue.Step.ofKey_of_not_text notText with ⟨n, index⟩ | shown
  · rw [index]
    rfl
  · have same := respells.eq_self (display_not_mem_allSpellings notText)
    rw [shown]
    simp only [Issue.respell, same]

theorem unknownIssue?_respell (key : Scalar) :
    unknownIssue? Field.allSpellings (key.respell rename) =
      (unknownIssue? Field.allSpellings key).map (Issue.respell rename) := by
  cases key with
  | text name =>
      simp only [Scalar.respell, unknownIssue?, List.contains_iff_mem,
        respells.mem_allSpellings_iff]
      split <;> rfl
  | _ => exact congrArg some (respells.respell_ofKey (by simp [Scalar.respell]) .invalidKey).symm

variable {entries respelled : List (Scalar × Value)}

/-- A key that is no name of an option is not given where it was not given before. -/
theorem entry?_eq_none (perm : respelled.Perm (respellKeys rename entries)) {key : String}
    (other : key ∉ Field.allSpellings) (h : Value.entry? entries key = none) :
    Value.entry? respelled key = none := by
  rw [Value.entry?_eq_none_iff] at h ⊢
  intro value given
  obtain ⟨old, rfl, before⟩ := (mem_respelled_iff perm).mp given
  have same : rename old = old := respells.eq_self (mt respells.mem_allSpellings_iff.mpr other)
  exact h value (same.symm ▸ before)

/-- An option has the same value under its new name. -/
theorem gives_iff (perm : respelled.Perm (respellKeys rename entries)) {field : Field}
    (member : field ∈ Field.all) {key : String} {value : Value} :
    field.Gives respelled key value ↔ ∃ old, rename old = key ∧ field.Gives entries old value := by
  constructor
  · rintro ⟨spelled, given⟩
    obtain ⟨old, rfl, before⟩ := (mem_respelled_iff perm).mp given
    exact ⟨old, rfl, (respells.mem_spellings_iff member).mp spelled, before⟩
  · rintro ⟨old, rfl, spelled, given⟩
    exact ⟨(respells.mem_spellings_iff member).mpr spelled,
      (mem_respelled_iff perm).mpr ⟨old, rfl, given⟩⟩

theorem unambiguous (perm : respelled.Perm (respellKeys rename entries))
    (h : Field.Unambiguous entries) : Field.Unambiguous respelled := by
  intro field member key value key' value' gives gives'
  obtain ⟨old, rfl, before⟩ := (respells.gives_iff perm member).mp gives
  obtain ⟨old', rfl, before'⟩ := (respells.gives_iff perm member).mp gives'
  obtain ⟨rfl, rfl⟩ := h field member _ _ _ _ before before'
  exact ⟨rfl, rfl⟩

variable (perm : respelled.Perm (respellKeys rename entries))
include perm

/-- Step of the two readings: an option has the same effect. -/
theorem effect {field : Field} (h : Field.Unambiguous entries) (member : field ∈ Field.all) :
    Decoded.Respelled rename (field.effect entries) (field.effect respelled) := by
  by_cases given : ∃ key value, field.Gives entries key value
  · obtain ⟨key, value, gives⟩ := given
    have gives' := (respells.gives_iff perm member).mpr ⟨key, rfl, gives⟩
    rw [gives.effect h member, gives'.effect (respells.unambiguous perm h) member]
    exact .below _ key
  · have none : ∀ key value, ¬ field.Gives entries key value := fun key value gives =>
      given ⟨key, value, gives⟩
    have none' : ∀ key value, ¬ field.Gives respelled key value := fun key value gives =>
      let ⟨old, _, before⟩ := (respells.gives_iff perm member).mp gives
      none old value before
    rw [Field.effect_of_not_gives none, Field.effect_of_not_gives none']
    exact .ok id

theorem unknownKeys :
    Decoded.Respelled rename (Config.unknownKeys Field.allSpellings entries)
      (Config.unknownKeys Field.allSpellings respelled) := by
  have refused : (respelled.filterMap fun entry => unknownIssue? Field.allSpellings entry.1).Perm
      ((entries.filterMap fun entry => unknownIssue? Field.allSpellings entry.1).map
        (Issue.respell rename)) := by
    refine (perm.filterMap _).trans (.of_eq ?_)
    rw [respellKeys, List.filterMap_map, List.map_filterMap]
    exact List.filterMap_congr fun entry _ => respells.unknownIssue?_respell entry.1
  rw [unknownKeys_eq, unknownKeys_eq, refused.isEmpty_eq, List.isEmpty_map]
  split
  · exact .ok ()
  · exact .issues refused

/-- Other spellings and another order change neither the settings nor what is wrong with them. -/
theorem decodeSettings (h : Field.Unambiguous entries) :
    Decoded.Respelled rename (Config.decodeSettings entries) (Config.decodeSettings respelled) := by
  have effects := Decoded.Respelled.all_map fun field member => respells.effect perm h member
  rw [Config.decodeSettings, Config.decodeSettings, unknownKeys_of_unambiguous h,
    unknownKeys_of_unambiguous (respells.unambiguous perm h)]
  exact (effects.both (respells.unknownKeys perm)).map _

end Respells

end JavadocAudit.Config

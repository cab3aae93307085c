import JavadocAudit.Settings
import JavadocAudit.ThrowsMatch

/-!
# What a documented exception belongs to

Names are looked at before inheritance, so a documented exception belongs to the first declared one
that it names, if there is one. Marks have a say only among the exceptions that are related to it:
they decide which of these it belongs to, but never whether there is one.

A documented name whose class is known names two kinds of declared exceptions: those of the same
class, and those of unknown class with an agreeing text. They are not told apart when the first one
is taken. The class wins over the text only if no exception of unknown class stands before it.
-/

namespace JavadocAudit.Declared

variable {α : Type} {resolver : Resolver α} {documented : String} {resolved : Option (Handle α)}
variable {declared : List (Declared α)} {d : Declared α} {place : Nat}

def class? (d : Declared α) : Option ClassInfo := d.resolved.bind Handle.info?

section Marks

/-- Marking an exception changes nothing but its mark. -/
theorem map_markFound {β : Type} {view : Declared α → β}
    (blind : ∀ d, view { d with found := true } = view d) (declared : List (Declared α))
    (place : Nat) : (markFound declared place).map view = declared.map view := by
  apply List.ext_getElem?
  intro i
  rw [markFound, List.getElem?_map, List.getElem?_map, List.getElem?_modify]
  cases declared[i]? with
  | none => rfl
  | some d =>
      by_cases here : place = i
      · simp [here, blind]
      · simp [here]

theorem mem_markFound_cases (h : d ∈ markFound declared place) :
    ∃ original ∈ declared, d = original ∨ d = { original with found := true } := by
  obtain ⟨i, here⟩ := List.getElem?_of_mem h
  rw [markFound, List.getElem?_modify] at here
  obtain ⟨original, there, rfl⟩ := Option.map_eq_some_iff.mp here
  refine ⟨original, List.mem_of_getElem? there, ?_⟩
  split
  · exact .inr rfl
  · exact .inl rfl

/-- What a marked exception looks like in its place. -/
theorem markFound_append (front back : List (Declared α)) (d : Declared α) :
    markFound (front ++ d :: back) front.length = front ++ { d with found := true } :: back := by
  induction front with
  | nil => rfl
  | cons first rest ih => simpa [markFound] using ih

end Marks

section Search

/-- A search ends at the first exception that passes the test. -/
theorem exists_of_index?_eq_some {test : Declared α → Bool}
    (h : index? test declared = some place) :
    ∃ front d back, declared = front ++ d :: back ∧ front.length = place ∧ test d = true ∧
      ∀ other ∈ front, test other = false := by
  obtain ⟨bound, passes, before⟩ := List.findIdx?_eq_some_iff_getElem.mp h
  refine ⟨declared.take place, declared[place], declared.drop (place + 1), ?_, ?_, passes, ?_⟩
  · rw [← List.drop_eq_getElem_cons bound, List.take_append_drop]
  · rw [List.length_take]
    omega
  · intro other member
    obtain ⟨i, inFront, rfl⟩ := List.mem_take_iff_getElem.mp member
    have earlier : i < place := by omega
    simpa using before i earlier

theorem index?_singleton (test : Declared α → Bool) (d : Declared α) :
    index? test [d] = if test d then some 0 else none := by
  simp [index?, List.findIdx?_cons]

theorem index?_eq_none_iff {test : Declared α → Bool} :
    index? test declared = none ↔ ∀ d ∈ declared, test d = false :=
  List.findIdx?_eq_none_iff

end Search

section Match

/-- A documented exception can belong to the declared one: it names it, or is related to it. -/
def suits (resolver : Resolver α) (documented : String) (resolved : Option (Handle α))
    (d : Declared α) : Bool :=
  d.isNamedBy documented resolved || resolved.any fun handle => isRelatedTo resolver handle d

/-- The first exception that is named is matched, whatever is related and whatever is marked. -/
theorem match?_of_named (resolver : Resolver α) (member : d ∈ declared)
    (named : d.isNamedBy documented resolved = true) :
    ∃ front first back, declared = front ++ first :: back ∧
      match? resolver documented resolved declared = some front.length ∧
      first.isNamedBy documented resolved = true ∧
      ∀ other ∈ front, other.isNamedBy documented resolved = false := by
  cases found : index? (·.isNamedBy documented resolved) declared with
  | none =>
      have unnamed := index?_eq_none_iff.mp found d member
      rw [named] at unnamed
      cases unnamed
  | some place =>
      obtain ⟨front, first, back, split, rfl, here, before⟩ := exists_of_index?_eq_some found
      exact ⟨front, first, back, split, by simp only [match?, found], here, before⟩

/-- A documented exception belongs to nothing exactly if it suits no declared exception, found or
not. -/
theorem match?_eq_none_iff :
    match? resolver documented resolved declared = none ↔
      ∀ d ∈ declared, suits resolver documented resolved d = false := by
  have passed {test : Declared α → Bool} {place : Nat} (found : index? test declared = some place) :
      ∃ d ∈ declared, test d = true := by
    obtain ⟨front, d, back, split, -, passes, -⟩ := exists_of_index?_eq_some found
    exact ⟨d, by simp [split], passes⟩
  unfold match?
  split
  · next place found =>
      obtain ⟨d, member, named⟩ := passed found
      refine iff_of_false (by simp) fun unsuited => ?_
      simpa [suits, named] using unsuited d member
  · next nothing =>
      have unnamed := index?_eq_none_iff.mp nothing
      cases resolved with
      | none => simpa [suits] using unnamed
      | some handle =>
          have only_related : (∀ d ∈ declared, suits resolver documented (some handle) d = false) ↔
              ∀ d ∈ declared, isRelatedTo resolver handle d = false := by
            refine forall₂_congr fun d member => ?_
            simp [suits, unnamed d member]
          rw [only_related]
          dsimp only
          split
          · next place found =>
              obtain ⟨d, member, here⟩ := passed found
              refine iff_of_false (by simp) fun unrelated => ?_
              simp [unrelated d member] at here
          · next unfound =>
              have not_open := index?_eq_none_iff.mp unfound
              rw [index?_eq_none_iff]
              refine forall₂_congr fun d member => ?_
              -- Here an exception that has not been found is known to be unrelated.
              cases mark : d.found with
              | true => simp
              | false => simpa [mark] using not_open d member

/-- A single exception is matched exactly by what suits it. -/
theorem match?_singleton (resolver : Resolver α) (documented : String)
    (resolved : Option (Handle α)) (d : Declared α) :
    match? resolver documented resolved [d] =
      if suits resolver documented resolved d then some 0 else none := by
  unfold match? suits
  simp only [index?_singleton]
  cases named : d.isNamedBy documented resolved with
  | true => rfl
  | false =>
      cases resolved with
      | none => rfl
      | some handle =>
          cases d.found <;> cases related : isRelatedTo resolver handle d <;> simp [related]

end Match

section Precedence

/-- The name of the class of a declared exception, if it is known. -/
def className? (d : Declared α) : Option String := d.class?.map ClassInfo.name

/-- An exception of unknown class whose text agrees with the documented name. -/
def IsLookAlike (d : Declared α) (documented : String) : Prop :=
  d.class? = none ∧ sameText documented d.name = true

/-- A documented name of known class names the exceptions of that class, and the look-alikes. -/
theorem isNamedBy_known_iff {info : ClassInfo} :
    d.isNamedBy documented (some (.known info)) = true ↔
      d.className? = some info.name ∨ d.IsLookAlike documented := by
  simp only [isNamedBy, className?, IsLookAlike, class?, Option.bind_some, Handle.info?]
  cases d.resolved.bind Handle.info? with
  | none => simp
  | some own =>
      simp only [beq_iff_eq, Option.map_some, Option.some.injEq, reduceCtorEq, false_and, or_false]
      exact eq_comm

/-- Of two exceptions, the one that is not the other and not before it is behind it. -/
theorem mem_before_of_split {front back before after : List (Declared α)} {other : Declared α}
    (split : front ++ d :: back = before ++ other :: after) (different : other ≠ d)
    (notBefore : other ∉ front) : d ∈ before := by
  rcases List.append_eq_append_iff.mp split with ⟨middle, rfl, rest⟩ | ⟨middle, rfl, rest⟩
  · cases middle with
    | nil => exact absurd (List.cons.inj rest).1.symm different
    | cons first middle =>
        obtain ⟨rfl, -⟩ := List.cons.inj rest
        simp
  · cases middle with
    | nil => exact absurd (List.cons.inj rest).1 different
    | cons first middle =>
        obtain ⟨rfl, -⟩ := List.cons.inj rest
        exact absurd (by simp) notBefore

/-- If some declared exception is of the class that a documented name stands for, the name belongs
to the first exception that is of this class or a look-alike. It belongs to one of the class exactly
if one of them stands before all look-alikes. -/
theorem class_wins_iff_before_look_alikes (resolver : Resolver α) (documented : String)
    (info : ClassInfo) (declares : ∃ d ∈ declared, d.className? = some info.name) :
    ∃ front d back, declared = front ++ d :: back ∧
      match? resolver documented (some (.known info)) declared = some front.length ∧
      (d.className? = some info.name ∨ d.IsLookAlike documented) ∧
      (d.className? = some info.name ↔
        ∀ before other after, declared = before ++ other :: after → other.IsLookAlike documented →
          ∃ first ∈ before, first.className? = some info.name) := by
  obtain ⟨own, member, ofClass⟩ := declares
  obtain ⟨front, d, back, split, matched, named, unnamed⟩ :=
    match?_of_named resolver member (isNamedBy_known_iff.mpr (.inl ofClass))
  refine ⟨front, d, back, split, matched, isNamedBy_known_iff.mp named, ?_, ?_⟩
  · intro wins before other after split' lookAlike
    have different : other ≠ d := by
      rintro rfl
      simp [className?, lookAlike.1] at wins
    have notBefore : other ∉ front := by
      intro inFront
      have := unnamed other inFront
      rw [isNamedBy_known_iff.mpr (.inr lookAlike)] at this
      cases this
    exact ⟨d, mem_before_of_split (split.symm.trans split') different notBefore, wins⟩
  · intro classFirst
    rcases isNamedBy_known_iff.mp named with wins | lookAlike
    · exact wins
    · obtain ⟨first, inFront, ofClass⟩ := classFirst front d back split lookAlike
      have := unnamed first inFront
      rw [isNamedBy_known_iff.mpr (.inl ofClass)] at this
      cases this

/-- An exception that is declared where nothing is imported. -/
def unimported (name : String) : Declared Empty where
  name
  resolved := (ClassTable.withStandard []).resolver.resolveQuietly name none

/-- The class of the qualified name is known; the simple name stands for no known class. -/
theorem className?_unimported :
    (unimported "java.io.IOException").className? = some "java.io.IOException" ∧
      (unimported "IOException").IsLookAlike "java.io.IOException" := by
  refine ⟨by decide +kernel, by decide +kernel, by decide +kernel⟩

theorem class_wins_before_look_alike :
    (∃ d ∈ [unimported "java.io.IOException", unimported "IOException"],
        d.className? = some "java.io.IOException") ∧
      ∃ front d back,
        [unimported "java.io.IOException", unimported "IOException"] = front ++ d :: back ∧
          match? (ClassTable.withStandard []).resolver "java.io.IOException"
              (some (.known ⟨"java.io.IOException", some "java.lang.Exception"⟩))
              [unimported "java.io.IOException", unimported "IOException"] = some front.length ∧
          d.className? = some "java.io.IOException" := by
  have declares : ∃ d ∈ [unimported "java.io.IOException", unimported "IOException"],
      d.className? = some "java.io.IOException" :=
    ⟨_, List.mem_cons_self, className?_unimported.1⟩
  obtain ⟨front, d, back, split, matched, -, wins⟩ :=
    class_wins_iff_before_look_alikes (ClassTable.withStandard []).resolver "java.io.IOException"
      ⟨"java.io.IOException", some "java.lang.Exception"⟩ declares
  refine ⟨declares, front, d, back, split, matched, wins.mpr ?_⟩
  intro before other after split' lookAlike
  cases before with
  | nil =>
      obtain ⟨rfl, -⟩ := List.cons.inj split'
      exact absurd lookAlike.1 (by decide +kernel)
  | cons first before =>
      obtain ⟨rfl, -⟩ := List.cons.inj split'
      exact ⟨_, List.mem_cons_self, className?_unimported.1⟩

/-- A name that is documented in full, as the declared exception behind has it, belongs to the
look-alike before. -/
theorem look_alike_wins_before_class :
    ¬ ∀ (declared : List (Declared Empty)) (documented : String) (info : ClassInfo),
      (ClassTable.withStandard []).resolver.resolveQuietly documented none = some (.known info) →
      (∃ d ∈ declared, d.className? = some info.name) →
      ∃ place d,
        match? (ClassTable.withStandard []).resolver documented (some (.known info)) declared =
            some place ∧
          declared[place]? = some d ∧ d.className? = some info.name := by
  intro classWins
  obtain ⟨place, d, matched, found, ofClass⟩ :=
    classWins [unimported "IOException", unimported "java.io.IOException"] "java.io.IOException"
      ⟨"java.io.IOException", some "java.lang.Exception"⟩ (by decide +kernel)
      ⟨_, by simp, className?_unimported.1⟩
  have first : place = 0 := by
    have : match? (ClassTable.withStandard []).resolver "java.io.IOException"
        (some (.known ⟨"java.io.IOException", some "java.lang.Exception"⟩))
        [unimported "IOException", unimported "java.io.IOException"] = some 0 := by
      decide +kernel
    exact Option.some.inj (matched.symm.trans this)
  subst first
  obtain rfl := Option.some.inj found
  simp [className?, className?_unimported.2.1] at ofClass

end Precedence

end JavadocAudit.Declared

import JavadocAudit.Proofs.Verification.Inherited
import JavadocAudit.Proofs.Verification.Marks

/-!
# How far tags for exceptions reach

A tag documents one declared exception at most, so as many are missing as are left when every tag
has taken one. Nothing is lost if all tags stand for one class that is not declared itself but is
related to every class that is: a tag then goes to the first exception that is still open. The state
of such a run is known from its length. The first exceptions, as many as there were tags, are found,
and the others are not. Tags that come when all are found go to an exception that is found already,
and are not reported.

Where nothing is declared there is nothing to be related to. All tags are then of no use, unless
they are tolerated.
-/

namespace JavadocAudit

namespace Declared

variable {α : Type} {resolver : Resolver α} {declared : List (Declared α)}

section Search

/-- A search passes over what fails the test. -/
theorem index?_append_cons {test : Declared α → Bool} {front : List (Declared α)} {d : Declared α}
    (before : ∀ other ∈ front, test other = false) (here : test d = true)
    (back : List (Declared α)) : index? test (front ++ d :: back) = some front.length := by
  rw [index?, List.findIdx?_append, List.findIdx?_eq_none_iff.mpr before]
  simp [List.findIdx?_cons, here]

end Search

section First

/-- The exceptions with the first ones marked as found. -/
def markFirst (count : Nat) (declared : List (Declared α)) : List (Declared α) :=
  (declared.take count).map (fun d => { d with found := true }) ++ declared.drop count

theorem mem_markFirst_cases {count : Nat} {d : Declared α} (h : d ∈ markFirst count declared) :
    ∃ original ∈ declared, d = original ∨ d = { original with found := true } := by
  rcases List.mem_append.mp h with first | later
  · obtain ⟨original, own, rfl⟩ := List.mem_map.mp first
    exact ⟨original, List.mem_of_mem_take own, .inr rfl⟩
  · exact ⟨d, List.mem_of_mem_drop later, .inl rfl⟩

theorem markFirst_succ_of_drop_eq_nil {count : Nat} (h : declared.drop count = []) :
    markFirst (count + 1) declared = markFirst count declared := by
  have all : declared.length ≤ count := List.drop_eq_nil_iff.mp h
  simp only [markFirst, List.take_of_length_le all, List.take_of_length_le (Nat.le_succ_of_le all),
    List.drop_of_length_le all, List.drop_of_length_le (Nat.le_succ_of_le all)]

theorem markFirst_succ_of_drop_eq_cons {count : Nat} {d : Declared α} {back : List (Declared α)}
    (h : declared.drop count = d :: back) :
    markFirst (count + 1) declared =
      (declared.take count).map (fun d => { d with found := true }) ++
        { d with found := true } :: back := by
  have next : declared[count]? = some d := by
    rw [← Nat.add_zero count, ← List.getElem?_drop, h]
    rfl
  have rest : declared.drop (count + 1) = back := by
    rw [← List.tail_drop, h]
    rfl
  simp [markFirst, List.take_add_one, next, rest]

/-- What is not found once the first ones are marked. -/
theorem filter_not_found_markFirst (fresh : ∀ d ∈ declared, d.found = false) (count : Nat) :
    (markFirst count declared).filter (!·.found) = declared.drop count := by
  have later : (declared.drop count).filter (!·.found) = declared.drop count := by
    rw [List.filter_eq_self]
    intro d member
    rw [fresh d (List.mem_of_mem_drop member)]
    rfl
  rw [markFirst, List.filter_append, later, List.filter_map]
  simp

end First

section Kin

/-- A documented exception is another class than the declared one, and is related to it. -/
structure IsKin (resolver : Resolver α) (documented : String) (handle : Handle α)
    (d : Declared α) : Prop where
  unnamed : d.isNamedBy documented (some handle) = false
  related : isRelatedTo resolver handle d = true

variable {documented : String} {handle : Handle α}

/-- One step of the run: the first exception that is open is found, if there is one. -/
theorem document_markFirst (fresh : ∀ d ∈ declared, d.found = false)
    (kin : ∀ d ∈ declared, IsKin resolver documented handle d) (count : Nat) :
    document resolver documented (some handle) (markFirst count declared) =
      markFirst (count + 1) declared := by
  have unnamed : index? (·.isNamedBy documented (some handle)) (markFirst count declared) =
      none := by
    rw [index?_eq_none_iff]
    intro d member
    obtain ⟨original, own, rfl | rfl⟩ := mem_markFirst_cases member
    · exact (kin _ own).unnamed
    · exact (kin original own).unnamed
  have closed : ∀ d ∈ (declared.take count).map (fun d => { d with found := true }),
      isOpenTo resolver handle d = false := by
    intro d member
    obtain ⟨original, -, rfl⟩ := List.mem_map.mp member
    rfl
  -- No name decides, so the next exception is the first one that is not marked yet.
  rw [document_eq, unnamed, Option.none_or, Option.bind_some]
  cases later : declared.drop count with
  | nil =>
      have noneOpen : index? (isOpenTo resolver handle) (markFirst count declared) = none := by
        rw [index?_eq_none_iff, markFirst, later, List.append_nil]
        exact closed
      rw [noneOpen, markFirst_succ_of_drop_eq_nil later]
      rfl
  | cons d back =>
      have own : d ∈ declared := List.mem_of_mem_drop (later ▸ List.mem_cons_self)
      have isOpen : isOpenTo resolver handle d = true := by
        rw [isOpenTo, fresh d own, (kin d own).related]
        rfl
      rw [markFirst_succ_of_drop_eq_cons later, markFirst, later,
        index?_append_cons closed isOpen]
      exact markFound_append _ back d

/-- A documented exception belongs to some declared one if there is any. -/
theorem IsKin.suits {d : Declared α} (kin : IsKin resolver documented handle d) :
    d.suits resolver documented (some handle) = true := by
  simp [Declared.suits, kin.related]

end Kin

end Declared

namespace Verification

open Declared

variable {α : Type} {resolver : Resolver α} {settings : Settings} {signature : Signature}
variable {comment : Comment} {declared : List (Declared α)} {scope : Option NameScope}

section Run

/-- Every documented name takes one exception at most from those that are not found. -/
theorem length_not_found_le (resolver : Resolver α) (scope : Option NameScope) (names : List String)
    (declared : List (Declared α)) :
    (declared.filter (!·.found)).length ≤
      ((documentAll resolver scope names declared).filter (!·.found)).length + names.length := by
  induction names generalizing declared with
  | nil => exact Nat.le_refl _
  | cons name rest ih =>
      have step := (ahead_document resolver name (resolver.resolveQuietly name scope)
        declared).filter_not_found.2
      have run := ih (document resolver name (resolver.resolveQuietly name scope) declared)
      rw [documentAll, List.foldl_cons, ← documentAll, List.length_cons]
      omega

/-- The names stand for classes that are related to all declared ones, and are none of them. -/
def AllKin (resolver : Resolver α) (scope : Option NameScope) (names : List String)
    (declared : List (Declared α)) : Prop :=
  ∀ name ∈ names, ∃ handle, resolver.resolveQuietly name scope = some handle ∧
    ∀ d ∈ declared, IsKin resolver name handle d

/-- A run goes through the exceptions in order. -/
theorem documentAll_markFirst (fresh : ∀ d ∈ declared, d.found = false) {names : List String}
    (kin : AllKin resolver scope names declared) (count : Nat) :
    documentAll resolver scope names (markFirst count declared) =
      markFirst (count + names.length) declared := by
  induction names generalizing count with
  | nil => rfl
  | cons name rest ih =>
      obtain ⟨handle, resolved, related⟩ := kin name List.mem_cons_self
      rw [documentAll, List.foldl_cons, ← documentAll, resolved,
        document_markFirst fresh related, ih fun other member => kin other (.tail name member),
        List.length_cons, Nat.add_assoc, Nat.add_comm 1]

theorem documentAll_eq_markFirst (fresh : ∀ d ∈ declared, d.found = false) {names : List String}
    (kin : AllKin resolver scope names declared) :
    documentAll resolver scope names declared = markFirst names.length declared := by
  have run := documentAll_markFirst fresh kin 0
  rwa [Nat.zero_add] at run

end Run

section Settled

theorem fresh_declaredExceptions (resolver : Resolver α) (signature : Signature) :
    ∀ d ∈ declaredExceptions resolver signature, d.found = false := by
  intro d member
  obtain ⟨thrown, -, rfl⟩ := List.mem_map.mp member
  rfl

theorem missingThrows_eq_documentAll (resolver : Resolver α) (signature : Signature)
    (unmarked : isInherited comment = false) (strict : settings.allowMissingThrows = false) :
    missingThrows resolver settings signature comment =
      ((documentAll resolver signature.scope ((throwsTags comment).map documentedName)
        (declaredExceptions resolver signature)).filter (!·.found)).map
          (expectedThrows signature) := by
  rw [missingThrows, strict, unmarked, settledThrows, settleThrows_snd]
  rfl

/-- As many exceptions are missing at least as there are more of them than tags. -/
theorem length_exceptions_le (resolver : Resolver α) (signature : Signature)
    (unmarked : isInherited comment = false) (strict : settings.allowMissingThrows = false) :
    signature.exceptions.length ≤
      (missingThrows resolver settings signature comment).length + (throwsTags comment).length := by
  have atFirst : (declaredExceptions resolver signature).filter (!·.found) =
      declaredExceptions resolver signature :=
    filter_not_found_markFirst (fresh_declaredExceptions resolver signature) 0
  have run := length_not_found_le resolver signature.scope
    ((throwsTags comment).map documentedName) (declaredExceptions resolver signature)
  rw [atFirst] at run
  rw [missingThrows_eq_documentAll resolver signature unmarked strict]
  simpa [declaredExceptions] using run

variable (kin : AllKin resolver signature.scope ((throwsTags comment).map documentedName)
  (declaredExceptions resolver signature))
include kin

theorem missingThrows_of_allKin (unmarked : isInherited comment = false)
    (strict : settings.allowMissingThrows = false) :
    missingThrows resolver settings signature comment =
      (signature.exceptions.drop (throwsTags comment).length).map (expectedThrown signature) := by
  have fresh := fresh_declaredExceptions resolver signature
  rw [missingThrows_eq_documentAll resolver signature unmarked strict,
    documentAll_eq_markFirst fresh kin, filter_not_found_markFirst fresh, List.length_map,
    declaredExceptions, ← List.map_drop, List.map_map]
  rfl

theorem settledThrows_left_of_allKin :
    (settledThrows resolver signature comment).1 =
      if signature.exceptions = [] then throwsTags comment else [] := by
  rw [settledThrows, settleThrows_left]
  split
  · next nothing =>
      rw [List.filter_eq_self]
      intro tag member
      simp [isNone_tagMatch?, declaredExceptions, nothing]
  · next something =>
      rw [List.filter_eq_nil_iff]
      intro tag member unmatched
      obtain ⟨handle, resolved, related⟩ := kin _ (List.mem_map_of_mem member)
      obtain ⟨d, own⟩ : ∃ d, d ∈ declaredExceptions resolver signature :=
        List.exists_mem_of_ne_nil _ fun empty => something (List.map_eq_nil_iff.mp empty)
      rw [isNone_tagMatch?, List.all_eq_true] at unmatched
      have unsuited := unmatched _ (List.mem_map_of_mem own)
      rw [resolved, (related d own).suits] at unsuited
      cases unsuited

theorem unusedThrows_of_allKin :
    unusedThrows resolver settings signature comment =
      if signature.exceptions = [] then
        ((throwsTags comment).filter (!isTolerated resolver settings signature ·)).map Tag.unused
      else [] := by
  rw [unusedThrows, settledThrows_left_of_allKin kin]
  split <;> rfl

end Settled

section Table

variable {table : ClassTable} {className : String}

def StandsFor (table : ClassTable) (scope : Option NameScope) (name className : String) : Prop :=
  ∃ info ∈ table.resolve name scope, info.name = className

/-- The name stands for another class, and one of the two extends the other. -/
def StandsBeside (table : ClassTable) (scope : Option NameScope) (name className : String) : Prop :=
  ∃ info ∈ table.resolve name scope, info.name ≠ className ∧
    (table.isSubtype info.name className = true ∨ table.isSubtype className info.name = true)

instance {scope : Option NameScope} {name : String} :
    Decidable (StandsFor table scope name className) :=
  inferInstanceAs (Decidable (∃ info ∈ _, _))

instance {scope : Option NameScope} {name : String} :
    Decidable (StandsBeside table scope name className) :=
  inferInstanceAs (Decidable (∃ info ∈ _, _ ∧ _))

theorem resolveQuietly_resolver {scope : Option NameScope} {name : String} {info : ClassInfo}
    (found : table.resolve name scope = some info) :
    table.resolver.resolveQuietly name scope = some (.known info) := by
  simp [Resolver.resolveQuietly, ClassTable.resolver, found]

theorem related_resolver (table : ClassTable) (a b : ClassInfo) :
    table.resolver.related (.known a) (.known b) =
      (table.isSubtype a.name b.name || table.isSubtype b.name a.name) := by
  cases up : table.isSubtype a.name b.name <;> simp [Resolver.related, ClassTable.resolver, up]

theorem allKin_of_standsBeside
    (declared : ∀ thrown ∈ signature.exceptions,
      StandsBeside table signature.scope thrown.name className)
    (documented : ∀ tag ∈ throwsTags comment,
      StandsFor table signature.scope (documentedName tag) className) :
    AllKin table.resolver signature.scope ((throwsTags comment).map documentedName)
      (declaredExceptions table.resolver signature) := by
  intro name member
  obtain ⟨tag, inTags, rfl⟩ := List.mem_map.mp member
  obtain ⟨info, found, rfl⟩ := documented tag inTags
  refine ⟨.known info, resolveQuietly_resolver found, ?_⟩
  intro d own
  obtain ⟨thrown, inSignature, rfl⟩ := List.mem_map.mp own
  obtain ⟨other, foundOther, different, direction⟩ := declared thrown inSignature
  have resolved := resolveQuietly_resolver foundOther
  constructor
  · simpa [isNamedBy, resolved, Handle.info?] using different.symm
  · rw [isRelatedTo, resolved]
    simpa [related_resolver, or_comm] using direction

end Table

/-- No tag documents more than one exception. If all tags stand for one class that is related to
every declared exception and is none of them, they document the exceptions one after the other, and
none of them is of no use as long as an exception is declared. -/
theorem one_tag_documents_one_exception
    (inScope : settings.inScope signature.visibility = true) (unmarked : ¬comment.HasMarker)
    (strict : settings.allowMissingThrows = false) :
    (∀ {α : Type} (resolver : Resolver α),
      signature.exceptions.length ≤
        ((verify settings resolver signature (some comment)).filter
          (·.kind = .expectedThrows)).length + (throwsTags comment).length) ∧
    ∀ (table : ClassTable) (className : String),
      (∀ thrown ∈ signature.exceptions,
        StandsBeside table signature.scope thrown.name className) →
      (∀ tag ∈ throwsTags comment,
        StandsFor table signature.scope (documentedName tag) className) →
      (verify settings table.resolver signature (some comment)).filter
          (reportsUnused comment .throws) =
        (if signature.exceptions = [] then
          ((throwsTags comment).filter
            (!isTolerated table.resolver settings signature ·)).map Tag.unused
        else []) ∧
      (verify settings table.resolver signature (some comment)).filter (·.kind = .expectedThrows) =
        (signature.exceptions.drop (throwsTags comment).length).map (expectedThrown signature) := by
  have notInherited : isInherited comment = false := by
    rw [← Bool.not_eq_true, isInherited_iff]
    exact unmarked
  constructor
  · intro α resolver
    rw [verify_eq_findings_of_unmarked inScope notInherited, filter_expectedThrows_findings]
    exact length_exceptions_le resolver signature notInherited strict
  · intro table className declared documented
    have kin := allKin_of_standsBeside declared documented
    rw [verify_eq_findings_of_unmarked inScope notInherited, filter_reportsUnused_throws,
      filter_expectedThrows_findings]
    exact ⟨unusedThrows_of_allKin kin, missingThrows_of_allKin kin notInherited strict⟩

/-- Two classes that extend each other, and two more below them. -/
def knotTable : ClassTable :=
  .withStandard
    [("app.Loop", some "app.Knot"), ("app.Knot", some "app.Loop"), ("app.Leaf", some "app.Loop"),
      ("app.Twig", some "app.Leaf")]

def untieSignature : Signature where
  name := "untie"
  position := ⟨6, 3⟩
  exceptions :=
    [⟨"app.Knot", none, none⟩, ⟨"app.Leaf", some 7, some 30⟩, ⟨"app.Twig", some 8, none⟩]

/-- The same class is documented again and again. -/
def untieComment (count : Nat) : Comment where
  lines := "/** Unties." :: List.replicate count " * @throws app.Loop at any time" ++ [" */"]

theorem untieSignature_runs_out :
    (∀ thrown ∈ untieSignature.exceptions,
        StandsBeside knotTable untieSignature.scope thrown.name "app.Loop") ∧
      (verify {} knotTable.resolver untieSignature (some (untieComment 2))).filter
          (·.kind = .expectedThrows) =
        [⟨.expectedThrows, ⟨8, 3⟩, ["@throws", "app.Twig"]⟩] ∧
      (verify {} knotTable.resolver untieSignature (some (untieComment 4))).filter
          (reportsUnused (untieComment 4) .throws) = [] ∧
      (verify {} knotTable.resolver untieSignature (some (untieComment 4))).filter
          (·.kind = .expectedThrows) = [] := by
  have declared : ∀ thrown ∈ untieSignature.exceptions,
      StandsBeside knotTable untieSignature.scope thrown.name "app.Loop" := by
    decide +kernel
  have inScope : ({} : Settings).inScope untieSignature.visibility = true := by decide
  have few : ¬(untieComment 2).HasMarker := by decide +kernel
  have many : ¬(untieComment 4).HasMarker := by decide +kernel
  obtain ⟨-, missing⟩ := (one_tag_documents_one_exception inScope few rfl).2 knotTable "app.Loop"
    declared (by decide +kernel)
  obtain ⟨unused, noneMissing⟩ := (one_tag_documents_one_exception inScope many rfl).2 knotTable
    "app.Loop" declared (by decide +kernel)
  exact ⟨declared, missing.trans (by decide +kernel), unused, noneMissing.trans (by decide +kernel)⟩

def haltSignature : Signature where
  name := "halt"
  position := ⟨20, 5⟩

def haltComment : Comment where
  lines := ["/**", " * @throws java.io.IOException never", " */"]

/-- Where nothing is declared, a tag is of no use, whatever class it stands for. -/
theorem haltComment_is_of_no_use :
    (∀ thrown ∈ haltSignature.exceptions,
        StandsBeside (.withStandard []) haltSignature.scope thrown.name "java.io.IOException") ∧
      (∀ tag ∈ throwsTags haltComment,
        StandsFor (.withStandard []) haltSignature.scope (documentedName tag)
          "java.io.IOException") ∧
      ({} : Settings).inScope haltSignature.visibility = true ∧ ¬haltComment.HasMarker ∧
      (verify {} (ClassTable.withStandard []).resolver haltSignature (some haltComment)).filter
          (reportsUnused haltComment .throws) =
        [⟨.unusedTag, ⟨2, 4⟩, ["@throws", "java.io.IOException"]⟩] := by
  decide +kernel

end Verification

end JavadocAudit

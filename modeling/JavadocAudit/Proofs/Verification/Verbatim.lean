import JavadocAudit.Proofs.Verification.Fate

/-!
# Exceptions documented as they are declared

A tag that repeats the name of a declared exception belongs to that exception, provided no other
declared exception can be taken for it. Other tags may mark exceptions as well, before and after,
but a mark is never taken away, and names are looked at without regard to marks. So a comment that
names every declared exception as it is declared leaves none without a tag.
-/

namespace JavadocAudit

variable {α : Type}

namespace Declared

variable {declared : List (Declared α)} {a b d : Declared α} {name : String}

/-- Two exceptions that cannot be taken for each other: neither by their simple names, nor by their
classes. -/
structure Apart (a b : Declared α) : Prop where
  names : simpleName a.name ≠ simpleName b.name
  classes : ∀ name, a.className? = some name → b.className? ≠ some name

theorem apart_iff :
    Apart a b ↔ simpleName a.name ≠ simpleName b.name ∧
      (a.className? = none ∨ a.className? ≠ b.className?) := by
  constructor
  · intro apart
    refine ⟨apart.names, ?_⟩
    cases known : a.className? with
    | none => exact .inl rfl
    | some name => exact .inr (apart.classes name known).symm
  · rintro ⟨names, classes⟩
    refine ⟨names, fun name ofA ofB => ?_⟩
    simp [ofA, ofB] at classes

instance (a b : Declared α) : Decidable (Apart a b) := decidable_of_iff _ apart_iff.symm

theorem Apart.symm (apart : Apart a b) : Apart b a :=
  ⟨apart.names.symm, fun name ofB ofA => apart.classes name ofA ofB⟩

/-- Texts with different simple names differ in any case. -/
theorem sameText_eq_false {first second : String} (h : simpleName first ≠ simpleName second) :
    sameText first second = false := by
  have different : first ≠ second := by
    rintro rfl
    exact h rfl
  simp [sameText, different, h]

/-- An exception is named by its own name. -/
theorem isNamedBy_self (d : Declared α) : d.isNamedBy d.name d.resolved = true := by
  unfold isNamedBy
  cases d.resolved.bind Handle.info? <;> simp [sameText]

/-- It is not named by the name of an exception that it cannot be taken for. -/
theorem Apart.isNamedBy_eq_false (apart : Apart a b) : b.isNamedBy a.name a.resolved = false := by
  have classes := apart.classes
  simp only [className?, class?] at classes
  unfold isNamedBy
  split
  · next x y ofA ofB =>
      have different : x.name ≠ y.name := by
        intro same
        exact classes x.name (by rw [ofA]; rfl) (by rw [ofB, same]; rfl)
      simpa using different
  · exact sameText_eq_false apart.names

/-- Every exception of this name has been found. -/
def Covered (name : String) (declared : List (Declared α)) : Prop :=
  ∀ d ∈ declared, d.name = name → d.found = true

/-- A mark is never taken away. -/
theorem Covered.markFound (covered : Covered name declared) (place : Nat) :
    Covered name (markFound declared place) := by
  intro d member same
  obtain ⟨original, inDeclared, rfl | rfl⟩ := mem_markFound_cases member
  · exact covered _ inDeclared same
  · rfl

/-- Among exceptions that cannot be taken for each other, a mark covers a name. -/
theorem covered_markFound {front back : List (Declared α)}
    (apart : (front ++ d :: back).Pairwise Apart) :
    Covered d.name (Declared.markFound (front ++ d :: back) front.length) := by
  obtain ⟨-, fromHere, before⟩ := List.pairwise_append.mp apart
  rw [markFound_append]
  intro other member same
  rcases List.mem_append.mp member with inFront | inRest
  · exact absurd (congrArg simpleName same) (before other inFront d (by simp)).names
  · rcases List.mem_cons.mp inRest with rfl | inBack
    · rfl
    · have behind := (List.pairwise_cons.mp fromHere).1 other inBack
      exact absurd (congrArg simpleName same.symm) behind.names

/-- Among exceptions that cannot be taken for each other, the name of an exception belongs to it,
and covers it. -/
theorem exists_match?_covers (resolver : Resolver α) (apart : declared.Pairwise Apart)
    (member : d ∈ declared) :
    ∃ place, match? resolver d.name d.resolved declared = some place ∧
      Covered d.name (Declared.markFound declared place) := by
  obtain ⟨front, first, back, rfl, matched, named, -⟩ :=
    match?_of_named resolver member d.isNamedBy_self
  obtain ⟨-, fromFirst, before⟩ := List.pairwise_append.mp apart
  have own : first = d := by
    have contrary {other : Declared α} (unlike : Apart d other)
        (named : other.isNamedBy d.name d.resolved = true) : False := by
      rw [unlike.isNamedBy_eq_false] at named
      cases named
    rcases List.mem_append.mp member with inFront | inRest
    · exact (contrary (before d inFront first (by simp)) named).elim
    · rcases List.mem_cons.mp inRest with rfl | inBack
      · rfl
      · exact (contrary ((List.pairwise_cons.mp fromFirst).1 d inBack).symm named).elim
  subst own
  exact ⟨front.length, matched, covered_markFound apart⟩

end Declared

namespace Verification

open Declared

variable {resolver : Resolver α} {scope : Option NameScope} {declared : List (Declared α)}
variable {tag : Tag} {tags : List Tag} {d : Declared α} {name : String}

/-- What is covered stays covered, whatever tags follow. -/
theorem covered_settleThrows (covered : Covered name declared) (tags : List Tag) :
    Covered name (settleThrows resolver scope tags declared).2 := by
  induction tags generalizing declared with
  | nil => exact covered
  | cons tag rest ih =>
      cases h : tagMatch? resolver scope declared tag with
      | some place =>
          rw [settleThrows_cons_of_match h]
          exact ih (covered.markFound place)
      | none =>
          rw [settleThrows_cons_of_no_match h]
          exact ih covered

theorem pairwise_apart_settleThrows (apart : declared.Pairwise Apart) (tags : List Tag) :
    (settleThrows resolver scope tags declared).2.Pairwise Apart := by
  have unmarked (ds : List (Declared α)) :
      ds.Pairwise Apart ↔ (ds.map fun d => { d with found := false }).Pairwise Apart := by
    rw [List.pairwise_map]
    constructor
    · exact fun h => h.imp fun apart => ⟨apart.names, apart.classes⟩
    · exact fun h => h.imp fun apart => ⟨apart.names, apart.classes⟩
  rwa [unmarked, map_settleThrows fun _ => rfl, ← unmarked]

/-- Wherever it stands, a tag with the name of an exception covers it. -/
theorem covered_of_mem_tags (apart : declared.Pairwise Apart) (member : d ∈ declared)
    (lookedUp : d.resolved = resolver.resolveQuietly d.name scope) (tagged : tag ∈ tags)
    (verbatim : documentedName tag = d.name) :
    Covered d.name (settleThrows resolver scope tags declared).2 := by
  obtain ⟨earlier, later, rfl⟩ := List.append_of_mem tagged
  rw [settleThrows_append]
  -- The tag finds the exceptions as the tags before have left them: the same ones, but for marks.
  have known : (d.name, d.resolved) ∈
      (settleThrows resolver scope earlier declared).2.map fun d => (d.name, d.resolved) := by
    rw [map_settleThrows fun _ => rfl]
    exact List.mem_map_of_mem member
  obtain ⟨marked, inState, same⟩ := List.mem_map.mp known
  obtain ⟨sameName, sameClass⟩ := Prod.mk.inj same
  obtain ⟨place, matched, covered⟩ :=
    exists_match?_covers resolver (pairwise_apart_settleThrows apart earlier) inState
  have tagMatched : tagMatch? resolver scope (settleThrows resolver scope earlier declared).2 tag =
      some place := by
    rw [tagMatch?, verbatim, ← lookedUp, ← sameName, ← sameClass]
    exact matched
  rw [settleThrows_cons_of_match tagMatched]
  rw [sameName] at covered
  exact covered_settleThrows covered later

variable {settings : Settings} {signature : Signature} {comment : Comment}

theorem exists_declared (resolver : Resolver α) {thrown : ThrownType}
    (inClause : thrown ∈ signature.exceptions) :
    ∃ d ∈ declaredExceptions resolver signature, d.name = thrown.name ∧
      d.resolved = resolver.resolveQuietly thrown.name signature.scope :=
  ⟨_, List.mem_map_of_mem inClause, rfl, rfl⟩

/-- Nothing is missing from a comment that names every exception as it is declared. -/
theorem missingThrows_eq_nil_of_verbatim (settings : Settings)
    (apart : (declaredExceptions resolver signature).Pairwise Apart)
    (documented : ∀ thrown ∈ signature.exceptions,
      ∃ tag ∈ comment.tags, tag.kind = .throws ∧ tag.argument = some thrown.name) :
    missingThrows resolver settings signature comment = [] := by
  have found : ∀ d ∈ (settledThrows resolver signature comment).2, d.found = true := by
    intro d member
    have declares : d.name ∈ (declaredExceptions resolver signature).map (·.name) := by
      rw [← map_settleThrows (fun _ => rfl) (throwsTags comment)]
      exact List.mem_map_of_mem member
    obtain ⟨own, inDeclared, same⟩ := List.mem_map.mp declares
    obtain ⟨thrown, inClause, rfl⟩ := List.mem_map.mp inDeclared
    obtain ⟨tag, inComment, kind, argument⟩ := documented thrown inClause
    have tagged : tag ∈ throwsTags comment := List.mem_filter.mpr ⟨inComment, by simpa using kind⟩
    have verbatim : documentedName tag = thrown.name := by simp [documentedName, argument]
    exact covered_of_mem_tags apart inDeclared rfl tagged verbatim d member same.symm
  unfold missingThrows
  split
  · rfl
  · simpa [List.filter_eq_nil_iff] using found

/-- A tag with the name of a declared exception has a match. -/
theorem isReported_eq_false_of_verbatim {earlier : List Tag} (kind : tag.kind = .throws)
    (verbatim : ∃ thrown ∈ signature.exceptions, tag.argument = some thrown.name) :
    isReported settings resolver signature earlier tag = false := by
  obtain ⟨thrown, inClause, argument⟩ := verbatim
  have name : documentedName tag = thrown.name := by simp [documentedName, argument]
  have matched : (tagMatch? resolver signature.scope (declaredAfter resolver signature earlier)
      tag).isNone = false := by
    obtain ⟨d, inDeclared, sameName, lookedUp⟩ := exists_declared resolver inClause
    obtain ⟨front, first, back, -, found, -⟩ :=
      match?_of_named resolver inDeclared d.isNamedBy_self
    rw [declaredAfter, isNone_tagMatch?_settleThrows, Option.isNone_eq_false_iff, tagMatch?, name,
      ← lookedUp, ← sameName]
    exact Option.isSome_of_eq_some found
  rw [isReported_of_throws kind, matched, Bool.false_and]

/-- A comment that names every declared exception as it is declared is enough, if the exceptions
cannot be taken for each other: none of them is missing, and no tag with such a name is reported. -/
theorem verbatim_documentation_suffices (settings : Settings) (resolver : Resolver α)
    (signature : Signature) (comment : Comment)
    (apart : (declaredExceptions resolver signature).Pairwise Apart)
    (documented : ∀ thrown ∈ signature.exceptions,
      ∃ tag ∈ comment.tags, tag.kind = .throws ∧ tag.argument = some thrown.name) :
    (∀ finding ∈ verify settings resolver signature (some comment),
      finding.kind ≠ .expectedThrows) ∧
    ∀ tag ∈ comment.tags, tag.kind = .throws →
      (∃ thrown ∈ signature.exceptions, tag.argument = some thrown.name) →
      tagReportsAt tag.position (verify settings resolver signature (some comment)) = [] := by
  constructor
  · intro finding member missing
    rcases mem_verify_cases member with marker | inFindings
    · simp [marker] at missing
    · have inGroup := mem_missingThrows_of_kind inFindings missing
      rw [missingThrows_eq_nil_of_verbatim settings apart documented] at inGroup
      cases inGroup
  · intro tag member kind verbatim
    by_cases inScope : settings.inScope signature.visibility = true
    · have notLone (lone : Tag) (single : comment.tags = [lone]) : lone.kind ≠ .inheritDoc := by
        rw [single, List.mem_singleton] at member
        rw [← member, kind]
        decide
      obtain ⟨earlier, later, split⟩ := List.append_of_mem member
      rw [verify_eq_findings inScope notLone, tagReportsAt_findings split,
        isReported_eq_false_of_verbatim kind verbatim]
      rfl
    · simp [verify, inScope, tagReportsAt]

/-- A method with two related exceptions, and one that no table knows. -/
def loadSignature : Signature where
  name := "load"
  position := ⟨8, 5⟩
  exceptions :=
    [⟨"java.io.IOException", none, none⟩, ⟨"java.io.FileNotFoundException", none, none⟩,
     ⟨"CacheMiss", none, none⟩]

/-- All three in another order, among tags that belong to one of them by inheritance. -/
def loadComment : Comment where
  lines :=
    ["/** @throws java.io.EOFException if cut off", " * @throws CacheMiss at first",
     " * @throws java.io.FileNotFoundException if absent",
     " * @throws java.io.IOException otherwise", " * @throws java.lang.Exception ever */"]

theorem verbatim_documentation_suffices_load :
    (declaredExceptions (ClassTable.withStandard []).resolver loadSignature).Pairwise Apart ∧
      (∀ thrown ∈ loadSignature.exceptions,
        ∃ tag ∈ loadComment.tags, tag.kind = .throws ∧ tag.argument = some thrown.name) ∧
      (∀ finding ∈
          verify {} (ClassTable.withStandard []).resolver loadSignature (some loadComment),
        finding.kind ≠ .expectedThrows) ∧
      tagReportsAt ⟨4, 4⟩
          (verify {} (ClassTable.withStandard []).resolver loadSignature (some loadComment)) =
        [] := by
  have apart : (declaredExceptions (ClassTable.withStandard []).resolver loadSignature).Pairwise
      Apart := by decide +kernel
  have documented : ∀ thrown ∈ loadSignature.exceptions,
      ∃ tag ∈ loadComment.tags, tag.kind = .throws ∧ tag.argument = some thrown.name := by
    decide +kernel
  obtain ⟨nothingMissing, notReported⟩ := verbatim_documentation_suffices {}
    (ClassTable.withStandard []).resolver loadSignature loadComment apart documented
  have fourth : (⟨.throws, "throws", ⟨4, 4⟩, some "java.io.IOException", "otherwise"⟩ : Tag) ∈
      loadComment.tags := by decide +kernel
  exact ⟨apart, documented, nothingMissing, notReported _ fourth rfl ⟨_, List.mem_cons_self, rfl⟩⟩

end Verification

end JavadocAudit

import JavadocAudit.Proofs.Verification.Order

/-!
# Comments in another order

A comment keeps its tags if its lines are put in another order, though not their positions. The
groups of findings that are about parameters and about the result compare tags by what they name and
count them, so they do not see the order. A tag for an exception has a match whatever the tags
before it have marked, so the tags without a match are the same as well. Which exception a tag marks
does depend on the order, unless there is only one.
-/

namespace JavadocAudit

/-- The tag, wherever it stands. -/
def Tag.unplaced (tag : Tag) : Tag := { tag with position := ⟨0, 0⟩ }

/-- The finding, wherever it stands. -/
def Diagnostic.content (finding : Diagnostic) : Diagnostic.Kind × List String :=
  (finding.kind, finding.args)

/-- The same tags, in any order and at any positions. -/
def SameTags (tags tags' : List Tag) : Prop :=
  (tags.map Tag.unplaced).Perm (tags'.map Tag.unplaced)

/-- A choice of tags that does not look at their positions. -/
theorem Tag.filter_map_unplaced {keep : Tag → Bool}
    (blind : ∀ tag, keep tag.unplaced = keep tag) (tags : List Tag) :
    (tags.map Tag.unplaced).filter keep = (tags.filter keep).map Tag.unplaced := by
  rw [List.filter_map]
  congr 1
  exact List.filter_congr fun tag _ => blind tag

namespace SameTags

variable {tags tags' : List Tag}

/-- What is read in tags without their positions. -/
theorem map (same : SameTags tags tags') {β : Type} {f : Tag → β}
    (blind : ∀ tag, f tag.unplaced = f tag) : (tags.map f).Perm (tags'.map f) := by
  have mapped := List.Perm.map f same
  rw [List.map_map, List.map_map] at mapped
  simpa only [Function.comp_def, blind] using mapped

theorem any_eq (same : SameTags tags tags') {p : Tag → Bool}
    (blind : ∀ tag, p tag.unplaced = p tag) : tags.any p = tags'.any p := by
  have mapped : (tags.map p).any id = (tags'.map p).any id := (same.map blind).any_eq
  simpa using mapped

theorem filter (same : SameTags tags tags') {p : Tag → Bool}
    (blind : ∀ tag, p tag.unplaced = p tag) : SameTags (tags.filter p) (tags'.filter p) := by
  unfold SameTags
  rw [← Tag.filter_map_unplaced blind, ← Tag.filter_map_unplaced blind]
  exact List.Perm.filter p same

theorem length_eq (same : SameTags tags tags') : tags.length = tags'.length := by
  simpa using List.Perm.length_eq same

end SameTags

namespace Comment

variable {lines lines' : List String}

/-- The tags of a comment, wherever they stand, are those of its lines. -/
theorem map_unplaced_tags (comment : Comment) :
    comment.tags.map Tag.unplaced =
      comment.lines.flatMap fun line =>
        (Tag.ofLine line.toList).map fun tag => (tag.place comment 0).unplaced := by
  have lines : comment.lines = comment.lines.zipIdx.map Prod.fst := by simp
  conv_rhs => rw [lines, List.flatMap_map]
  rw [tags, List.map_flatMap]
  simp only [List.map_map]
  rfl

theorem sameTags_of_perm (perm : lines.Perm lines') (start : Position) :
    SameTags (Comment.tags ⟨lines, start⟩) (Comment.tags ⟨lines', start⟩) := by
  unfold SameTags
  rw [map_unplaced_tags, map_unplaced_tags]
  exact perm.flatMap_right _

theorem perm_words_of_perm (perm : lines.Perm lines') (start : Position) :
    (Comment.words ⟨lines, start⟩).Perm (Comment.words ⟨lines', start⟩) :=
  perm.flatMap_right _

end Comment

namespace Verification

variable {α : Type} {settings : Settings} {resolver : Resolver α} {signature : Signature}
variable {comment comment' : Comment}

/-- A tag for a parameter has one name, so it is reported by what it describes. -/
theorem map_content_unusedParams (settings : Settings) (signature : Signature)
    (comment : Comment) :
    (unusedParams settings signature comment).map Diagnostic.content =
      ((settledParams settings signature comment).2.map Tag.argument).map
        fun argument => (.unusedTag, "@param" :: argument.toList) := by
  rw [unusedParams, List.map_map, List.map_map]
  refine List.map_congr_left fun tag member => ?_
  obtain ⟨inComment, keep⟩ := List.mem_filter.mp ((settleParams_left_sublist ..).subset member)
  have kind : tag.kind = .param := of_decide_eq_true (Bool.and_eq_true_iff.mp keep).1
  have name : tag.name = "param" := (Comment.name_of_mem_tags inComment).1 kind
  simp only [Function.comp_apply, Tag.unused, Diagnostic.content, name]
  rfl

theorem map_content_duplicateResult (duplicates : List Tag) :
    (duplicates.map duplicateResult).map Diagnostic.content =
      List.replicate duplicates.length (.duplicateTag, ["@return"]) := by
  simp [duplicateResult, Diagnostic.content, Function.comp_def]

theorem filter_duplicateResult (duplicates : List Tag) (keep : Diagnostic.Kind → Bool) :
    (duplicates.map duplicateResult).filter (fun finding => keep finding.kind) =
      if keep .duplicateTag then duplicates.map duplicateResult else [] := by
  refine filter_of_kind _ (fun finding member => ?_) keep
  obtain ⟨tag, -, rfl⟩ := List.mem_map.mp member
  rfl

/-- Comments with the same tags and words at the same place. -/
structure Rearranged (comment comment' : Comment) : Prop where
  start : comment.start = comment'.start
  tags : SameTags comment.tags comment'.tags
  words : comment.words.Perm comment'.words

namespace Rearranged

variable (same : Rearranged comment comment')
include same

theorem isInherited_eq : isInherited comment = isInherited comment' :=
  same.tags.any_eq fun _ => rfl

theorem perm_argument_paramTags (settings : Settings) :
    ((paramTags settings comment).map Tag.argument).Perm
      ((paramTags settings comment').map Tag.argument) :=
  (same.tags.filter fun _ => rfl).map fun _ => rfl

theorem sameTags_throwsTags : SameTags (throwsTags comment) (throwsTags comment') :=
  same.tags.filter fun _ => rfl

theorem settledParams_fst (settings : Settings) (signature : Signature) :
    (settledParams settings signature comment).1 =
      (settledParams settings signature comment').1 := by
  rw [settledParams, isNarrated_congr settings signature (mentions_congr same.words)]
  exact (settleParams_congr _ _ (same.perm_argument_paramTags settings)).1

theorem missingParams_eq (settings : Settings) (signature : Signature) :
    missingParams settings signature comment = missingParams settings signature comment' := by
  rw [missingParams, same.isInherited_eq, same.settledParams_fst, missingParams]

theorem mixedStyle_eq (settings : Settings) (signature : Signature) :
    mixedStyle settings signature comment = mixedStyle settings signature comment' := by
  rw [mixedStyle, same.settledParams_fst, same.start, mixedStyle]

/-- The order decides which of several tags for one parameter is taken, but they all have the same
name, and so have those that are left. -/
theorem perm_content_unusedParams (settings : Settings) (signature : Signature) :
    ((unusedParams settings signature comment).map Diagnostic.content).Perm
      ((unusedParams settings signature comment').map Diagnostic.content) := by
  rw [map_content_unusedParams, map_content_unusedParams]
  refine List.Perm.map _ ?_
  rw [settledParams, isNarrated_congr settings signature (mentions_congr same.words)]
  exact (settleParams_congr _ _ (same.perm_argument_paramTags settings)).2

/-- Of the tags for a result, only their number is seen. -/
theorem resultReport_cases (settings : Settings) (signature : Signature) :
    resultReport settings signature comment = resultReport settings signature comment' ∨
      ∃ duplicates duplicates' : List Tag, duplicates.length = duplicates'.length ∧
        resultReport settings signature comment = duplicates.map duplicateResult ∧
        resultReport settings signature comment' = duplicates'.map duplicateResult := by
  have tags : SameTags (resultTags comment) (resultTags comment') :=
    same.tags.filter fun _ => rfl
  have number := tags.length_eq
  unfold resultReport
  split
  · exact .inl rfl
  · cases first : resultTags comment with
    | nil =>
        rw [first] at number
        rw [List.length_eq_zero_iff.mp number.symm, same.isInherited_eq,
          mentionsReturn_congr same.words]
        exact .inl rfl
    | cons tag duplicates =>
        cases first' : resultTags comment' with
        | nil => simp [first, first'] at number
        | cons tag' duplicates' =>
            rw [first, first'] at number
            exact .inr ⟨duplicates, duplicates', Nat.succ.inj number, rfl, rfl⟩

/-- A result that nothing describes is reported in one place. -/
theorem filter_resultReport (settings : Settings) (signature : Signature)
    {keep : Diagnostic.Kind → Bool} (single : keep .duplicateTag = false) :
    (resultReport settings signature comment).filter (fun finding => keep finding.kind) =
      (resultReport settings signature comment').filter fun finding => keep finding.kind := by
  rcases same.resultReport_cases settings signature with equal | ⟨_, _, -, here, there⟩
  · rw [equal]
  · rw [here, there, filter_duplicateResult, filter_duplicateResult, single]
    rfl

theorem map_content_filter_resultReport (settings : Settings) (signature : Signature)
    (keep : Diagnostic.Kind → Bool) :
    ((resultReport settings signature comment).filter fun finding => keep finding.kind).map
        Diagnostic.content =
      ((resultReport settings signature comment').filter fun finding => keep finding.kind).map
        Diagnostic.content := by
  rcases same.resultReport_cases settings signature with equal | ⟨_, _, number, here, there⟩
  · rw [equal]
  · rw [here, there, filter_duplicateResult, filter_duplicateResult]
    split
    · rw [map_content_duplicateResult, map_content_duplicateResult, number]
    · rfl

theorem perm_content_unusedThrows (resolver : Resolver α) (settings : Settings)
    (signature : Signature) :
    ((unusedThrows resolver settings signature comment).map Diagnostic.content).Perm
      ((unusedThrows resolver settings signature comment').map Diagnostic.content) := by
  -- Whether a tag is left over can be told without the tags before it.
  simp only [unusedThrows, settledThrows, settleThrows_left, List.map_map]
  exact ((same.sameTags_throwsTags.filter fun _ => rfl).filter fun _ => rfl).map fun _ => rfl

theorem perm_content_strayTags (signature : Signature) :
    ((strayTags signature comment).map Diagnostic.content).Perm
      ((strayTags signature comment').map Diagnostic.content) := by
  simp only [strayTags, List.map_map]
  exact (same.tags.filter fun _ => rfl).map fun _ => rfl

/-- A single exception is found by any tag that suits it, whichever comes first. -/
theorem missingThrows_eq (resolver : Resolver α) (settings : Settings)
    (few : signature.exceptions.length ≤ 1) :
    missingThrows resolver settings signature comment =
      missingThrows resolver settings signature comment' := by
  have settled : (settledThrows resolver signature comment).2 =
      (settledThrows resolver signature comment').2 := by
    rcases exceptions : signature.exceptions with _ | ⟨thrown, _ | ⟨second, others⟩⟩
    · have none (comment : Comment) : (settledThrows resolver signature comment).2 = [] :=
        List.map_eq_nil_iff.mp ((map_thrown_settledThrows ..).trans exceptions)
      rw [none, none]
    · simp only [settledThrows, declaredExceptions, exceptions, List.map_singleton,
        settleThrows_singleton]
      rw [same.sameTags_throwsTags.any_eq fun _ => rfl]
    · simp [exceptions] at few
  rw [missingThrows, same.isInherited_eq, settled, missingThrows]

/-- What is found at no tag is found in the same places and the same order. -/
theorem filter_findings_eq (resolver : Resolver α) (settings : Settings)
    (keep : Diagnostic.Kind → Bool) (notUnused : keep .unusedTag = false)
    (notDuplicate : keep .duplicateTag = false)
    (few : keep .expectedThrows = true → signature.exceptions.length ≤ 1) :
    (findings resolver settings signature comment).filter (fun finding => keep finding.kind) =
      (findings resolver settings signature comment').filter fun finding => keep finding.kind := by
  have throws : (if keep .expectedThrows then missingThrows resolver settings signature comment
        else []) =
      if keep .expectedThrows then missingThrows resolver settings signature comment' else [] := by
    split
    · next kept => exact same.missingThrows_eq resolver settings (few kept)
    · rfl
  rw [filter_findings, filter_findings, notUnused, throws, same.missingParams_eq,
    same.mixedStyle_eq, same.filter_resultReport settings signature notDuplicate]
  rfl

/-- Apart from undocumented exceptions, the findings are the same wherever they stand. -/
theorem perm_content_filter_findings (resolver : Resolver α) (settings : Settings)
    (signature : Signature) (keep : Diagnostic.Kind → Bool)
    (notThrows : keep .expectedThrows = false) :
    (((findings resolver settings signature comment).filter fun finding =>
        keep finding.kind).map Diagnostic.content).Perm
      (((findings resolver settings signature comment').filter fun finding =>
        keep finding.kind).map Diagnostic.content) := by
  have unused {found found' : List Diagnostic}
      (perm : (found.map Diagnostic.content).Perm (found'.map Diagnostic.content)) :
      ((if keep .unusedTag then found else []).map Diagnostic.content).Perm
        ((if keep .unusedTag then found' else []).map Diagnostic.content) := by
    split
    · exact perm
    · exact .refl _
  have params := unused (same.perm_content_unusedParams settings signature)
  have throws := unused (same.perm_content_unusedThrows resolver settings signature)
  have stray := unused (same.perm_content_strayTags signature)
  rw [filter_findings, filter_findings, notThrows, same.missingParams_eq, same.mixedStyle_eq]
  simp only [List.map_append, same.map_content_filter_resultReport]
  exact ((((params.append_left _).append_right _).append throws).append_right _).append stray

/-- Comments that are not looked at any further are alike in that, and so are all others. -/
theorem verify_cases (settings : Settings) (resolver : Resolver α) (signature : Signature) :
    verify settings resolver signature (some comment) =
        verify settings resolver signature (some comment') ∨
      (∃ position position',
        verify settings resolver signature (some comment) =
            [⟨.invalidInheritDoc, position, []⟩] ∧
          verify settings resolver signature (some comment') =
            [⟨.invalidInheritDoc, position', []⟩]) ∨
      verify settings resolver signature (some comment) =
          findings resolver settings signature comment ∧
        verify settings resolver signature (some comment') =
          findings resolver settings signature comment' := by
  have alone : (loneInheritDoc? comment.tags).isSome = (loneInheritDoc? comment'.tags).isSome := by
    have inherited := same.isInherited_eq
    unfold isInherited at inherited
    rw [isSome_loneInheritDoc?, isSome_loneInheritDoc?, same.tags.length_eq, inherited]
  unfold verify
  split
  · exact .inl rfl
  · dsimp only
    cases lone : loneInheritDoc? comment.tags with
    | none =>
        rw [lone] at alone
        rw [Option.isNone_iff_eq_none.mp (Option.isSome_eq_false_iff.mp alone.symm)]
        exact .inr (.inr ⟨rfl, rfl⟩)
    | some tag =>
        rw [lone] at alone
        obtain ⟨tag', lone'⟩ := Option.isSome_iff_exists.mp alone.symm
        rw [lone']
        dsimp only
        split
        · exact .inl rfl
        · exact .inr (.inl ⟨_, _, rfl, rfl⟩)

end Rearranged

theorem rearranged_of_perm {lines lines' : List String} (perm : lines.Perm lines')
    (start : Position) : Rearranged ⟨lines, start⟩ ⟨lines', start⟩ :=
  ⟨rfl, Comment.sameTags_of_perm perm start, Comment.perm_words_of_perm perm start⟩

end Verification

open Verification in
/-- If the lines of a comment are put in another order, the findings are of the same kinds and name
the same, but for the exceptions that no tag documents. What is missing, or is described in two
styles, is found in the same places and the same order; with one exception at most, this is also so
for undocumented exceptions. -/
theorem verify_rearranged_lines {α : Type} (settings : Settings) (resolver : Resolver α)
    (signature : Signature) (start : Position) {lines lines' : List String}
    (perm : lines.Perm lines') :
    (((verify settings resolver signature (some ⟨lines, start⟩)).filter
          (·.kind ≠ .expectedThrows)).map Diagnostic.content).Perm
        (((verify settings resolver signature (some ⟨lines', start⟩)).filter
          (·.kind ≠ .expectedThrows)).map Diagnostic.content) ∧
      (verify settings resolver signature (some ⟨lines, start⟩)).filter
          (·.kind ∈ [.expectedParam, .mixedStyle, .expectedReturn, .missingJavadoc]) =
        (verify settings resolver signature (some ⟨lines', start⟩)).filter
          (·.kind ∈ [.expectedParam, .mixedStyle, .expectedReturn, .missingJavadoc]) ∧
      (signature.exceptions.length ≤ 1 →
        (verify settings resolver signature (some ⟨lines, start⟩)).filter
            (·.kind = .expectedThrows) =
          (verify settings resolver signature (some ⟨lines', start⟩)).filter
            (·.kind = .expectedThrows)) := by
  have same := rearranged_of_perm perm start
  rcases same.verify_cases settings resolver signature with
    equal | ⟨position, position', here, there⟩ | ⟨here, there⟩
  · rw [equal]
    exact ⟨.refl _, rfl, fun _ => rfl⟩
  · rw [here, there]
    exact ⟨.refl _, rfl, fun _ => rfl⟩
  · rw [here, there]
    refine ⟨?_, ?_, fun few => ?_⟩
    · exact same.perm_content_filter_findings resolver settings signature (· ≠ .expectedThrows) rfl
    · exact same.filter_findings_eq resolver settings
        (· ∈ [.expectedParam, .mixedStyle, .expectedReturn, .missingJavadoc]) rfl rfl nofun
    · exact same.filter_findings_eq resolver settings (· = .expectedThrows) rfl rfl fun _ => few

open Verification in
theorem verify_pollComment_reversed :
    pollComment.lines.Perm pollComment.lines.reverse ∧
      (((verify {} (ClassTable.withStandard []).resolver pollSignature
            (some ⟨pollComment.lines.reverse, ⟨1, 1⟩⟩)).filter
          (·.kind ≠ .expectedThrows)).map Diagnostic.content).Perm
        [(.expectedParam, ["@param", "b"]), (.expectedParam, ["@param", "c"]),
          (.unusedTag, ["@param", "q"]), (.duplicateTag, ["@return"]),
          (.unusedTag, ["@throws", "IllegalStateException"]), (.unusedTag, ["@throws"])] ∧
      (verify {} (ClassTable.withStandard []).resolver
            { pollSignature with exceptions := [⟨"java.io.IOException", some 13, some 16⟩] }
            (some ⟨pollComment.lines.reverse, ⟨1, 1⟩⟩)).filter (·.kind = .expectedThrows) =
        [⟨.expectedThrows, ⟨13, 16⟩, ["@throws", "java.io.IOException"]⟩] := by
  have perm : pollComment.lines.reverse.Perm pollComment.lines := List.reverse_perm _
  have several := verify_rearranged_lines {} (ClassTable.withStandard []).resolver pollSignature
    ⟨1, 1⟩ perm
  have single := verify_rearranged_lines {} (ClassTable.withStandard []).resolver
    { pollSignature with exceptions := [⟨"java.io.IOException", some 13, some 16⟩] } ⟨1, 1⟩ perm
  refine ⟨perm.symm, several.1.trans ?_, (single.2.2 (by decide)).trans ?_⟩
  · decide +kernel
  · decide +kernel

/-- With two exceptions, a tag for a class that both extend documents the one that is still open:
the second, if a tag before it documents the first. -/
example :
    let signature : Signature :=
      { name := "open"
        position := ⟨3, 5⟩
        exceptions := [⟨"java.io.IOException", none, none⟩,
          ⟨"java.io.FileNotFoundException", none, none⟩] }
    let found (lines : List String) :=
      verify {} (ClassTable.withStandard []).resolver signature (some ⟨lines, ⟨1, 1⟩⟩)
    (found ["@throws java.io.IOException", "@throws java.lang.Exception"]).length = 0 ∧
      (found ["@throws java.lang.Exception", "@throws java.io.IOException"]).length = 1 := by
  decide +kernel

end JavadocAudit

import JavadocAudit.Proofs.Verification.Inherited
import JavadocAudit.Proofs.Verification.Marks
import JavadocAudit.Proofs.Verification.Rearrangement

/-!
# One more line

A line that is put into a comment moves the lines behind it, and adds its words and its tags: a
block tag at most, and markers. So the comment describes all that it described before. Parameters
and results have no fewer tags and are mentioned no less, and a marker excuses the comment
altogether. What is missing afterwards was missing before.

For exceptions this is not plain, since a new tag may divert all the tags behind it. But the run
over the tags gets ahead by one mark at most, and so one exception at most is no longer missing.
-/

namespace JavadocAudit

/-- The comment with a line put in before the line of the given index, or at the end. -/
def Comment.insertLine (comment : Comment) (index : Nat) (line : String) : Comment :=
  { comment with lines := comment.lines.take index ++ line :: comment.lines.drop index }

namespace Tag

/-- The tags of a line, wherever it stands. -/
def unplacedOf (line : String) : List Tag :=
  (ofLine line.toList).map fun tag => (tag.place ⟨[], ⟨0, 0⟩⟩ 0).unplaced

/-- A line has one tag at most that is no marker. -/
theorem length_filter_unplacedOf (line : String) {kind : Kind} (notMarker : kind ≠ .inheritDoc) :
    ((unplacedOf line).filter (·.kind = kind)).length ≤ 1 := by
  have markers : ((markersFrom 0 line.toList).map fun tag =>
      (tag.place ⟨[], ⟨0, 0⟩⟩ 0).unplaced).filter (·.kind = kind) = [] := by
    rw [List.filter_eq_nil_iff]
    intro tag member
    obtain ⟨marker, found, rfl⟩ := List.mem_map.mp member
    have own := (standsIn_of_mem_markersFrom [] found).2.1
    simpa [unplaced, InLine.place, own] using notMarker.symm
  rw [unplacedOf, ofLine, List.map_append, List.filter_append, markers, List.append_nil]
  refine (List.length_filter_le _ _).trans ?_
  cases blockTag? line.toList <;> simp

/-- What is read in some of the tags without their positions. -/
theorem map_filter_unplaced {β : Type} {keep : Tag → Bool} {view : Tag → β}
    (keepBlind : ∀ tag, keep tag.unplaced = keep tag)
    (viewBlind : ∀ tag, view tag.unplaced = view tag) (tags : List Tag) :
    ((tags.map unplaced).filter keep).map view = (tags.filter keep).map view := by
  rw [filter_map_unplaced keepBlind, List.map_map]
  exact List.map_congr_left fun tag _ => viewBlind tag

end Tag

namespace Verification

variable {α : Type} {settings : Settings} {resolver : Resolver α} {signature : Signature}
variable {comment comment' : Comment} {line : String}

/-- The second comment says what the first one says, and what a further line says. -/
structure Extends (line : String) (comment comment' : Comment) : Prop where
  tags : ∃ front back, comment.tags.map Tag.unplaced = front ++ back ∧
    comment'.tags.map Tag.unplaced = front ++ Tag.unplacedOf line ++ back
  words : comment.words ⊆ comment'.words
  marked : comment'.HasMarker ↔ comment.HasMarker ∨ Tag.HasMarker line.toList

theorem extends_insertLine (comment : Comment) (index : Nat) (line : String) :
    Extends line comment (comment.insertLine index line) where
  tags := by
    have tags (comment : Comment) :
        comment.tags.map Tag.unplaced = comment.lines.flatMap Tag.unplacedOf :=
      comment.map_unplaced_tags
    refine ⟨(comment.lines.take index).flatMap Tag.unplacedOf,
      (comment.lines.drop index).flatMap Tag.unplacedOf, ?_, ?_⟩
    · rw [tags, ← List.flatMap_append, List.take_append_drop]
    · rw [tags, Comment.insertLine, List.flatMap_append, List.flatMap_cons, List.append_assoc]
  words := by
    intro word member
    rw [Comment.words, ← List.take_append_drop index comment.lines] at member
    simp only [Comment.words, Comment.insertLine, List.flatMap_append, List.flatMap_cons,
      List.mem_append] at member ⊢
    exact member.imp_right .inr
  marked := by
    have split : comment.HasMarker ↔
        ∃ line ∈ comment.lines.take index ++ comment.lines.drop index,
          Tag.HasMarker line.toList := by
      rw [List.take_append_drop]
      rfl
    rw [split]
    simp only [Comment.HasMarker, Comment.insertLine, List.mem_append, List.mem_cons]
    grind

section Missing

/-- What is missing is said in three of the groups. -/
theorem filter_isMissingTag_findings (resolver : Resolver α) (settings : Settings)
    (signature : Signature) (comment : Comment) :
    (findings resolver settings signature comment).filter (·.kind.isMissingTag) =
      missingParams settings signature comment
        ++ (resultReport settings signature comment).filter (·.kind.isMissingTag)
        ++ missingThrows resolver settings signature comment := by
  rw [filter_findings]
  simp [Diagnostic.Kind.isMissingTag]

/-- Nothing is said to be missing from a comment that takes over inherited text. -/
theorem filter_verify_of_inherited (settings : Settings) (resolver : Resolver α)
    (signature : Signature) (inherited : isInherited comment = true) (keep : Diagnostic.Kind → Bool)
    (missing : ∀ kind, keep kind = true → kind.isMissingTag = true) :
    (verify settings resolver signature (some comment)).filter (fun finding => keep finding.kind) =
      [] := by
  rw [List.filter_eq_nil_iff]
  intro finding member kept
  have present := isMissingTag_eq_false_of_inherited inherited member
  rw [missing finding.kind kept] at present
  cases present

end Missing

namespace Extends

variable (more : Extends line comment comment')
include more

/-- Tags of any sort are still there, in the same order. -/
theorem sublist_map_filter {β : Type} {keep : Tag → Bool} {view : Tag → β}
    (keepBlind : ∀ tag, keep tag.unplaced = keep tag)
    (viewBlind : ∀ tag, view tag.unplaced = view tag) :
    ((comment.tags.filter keep).map view).Sublist ((comment'.tags.filter keep).map view) := by
  obtain ⟨front, back, here, there⟩ := more.tags
  rw [← Tag.map_filter_unplaced keepBlind viewBlind comment.tags, here,
    ← Tag.map_filter_unplaced keepBlind viewBlind comment'.tags, there]
  refine List.Sublist.map view (List.Sublist.filter keep ?_)
  exact List.Sublist.append (List.sublist_append_left front _) (List.Sublist.refl back)

theorem isInherited_of_isInherited (inherited : isInherited comment = true) :
    isInherited comment' = true :=
  isInherited_iff.mpr (more.marked.mpr (.inl (isInherited_iff.mp inherited)))

theorem mentions_of_mentions {parameter : Parameter}
    (mentioned : comment.mentions parameter = true) : comment'.mentions parameter = true := by
  obtain ⟨word, member, fits⟩ := List.any_eq_true.mp mentioned
  exact List.any_eq_true.mpr ⟨word, more.words member, fits⟩

theorem mentionsReturn_of_mentionsReturn (mentioned : comment.mentionsReturn = true) :
    comment'.mentionsReturn = true := by
  obtain ⟨word, member, fits⟩ := List.any_eq_true.mp mentioned
  exact List.any_eq_true.mpr ⟨word, more.words member, fits⟩

theorem isNarrated_of_isNarrated {parameter : Parameter}
    (narrated : isNarrated settings signature comment parameter = true) :
    isNarrated settings signature comment' parameter = true := by
  simp only [isNarrated, Bool.and_eq_true, Comment.mentioned, List.contains_iff_mem, List.mem_map,
    List.mem_filter] at narrated ⊢
  obtain ⟨allowed, other, ⟨documented, mentioned⟩, name⟩ := narrated
  exact ⟨allowed, other, ⟨documented, more.mentions_of_mentions mentioned⟩, name⟩

theorem missingParams_sublist (settings : Settings) (signature : Signature) :
    (missingParams settings signature comment').Sublist
      (missingParams settings signature comment) := by
  by_cases excused : (settings.allowMissingParams || isInherited comment') = true
  · rw [missingParams, if_pos excused]
    exact List.nil_sublist _
  · have checked : ¬ (settings.allowMissingParams || isInherited comment) = true := by
      intro excused'
      rw [Bool.or_eq_true] at excused excused'
      exact excused (excused'.imp_right more.isInherited_of_isInherited)
    rw [missingParams, if_neg excused, missingParams, if_neg checked]
    refine List.Sublist.map _ (settleParams_missing_sublist ?_ _ ?_)
    · intro parameter narrated
      exact more.isNarrated_of_isNarrated narrated
    · exact more.sublist_map_filter (fun _ => rfl) (fun _ => rfl)

/-- A result that lacks a description lacked it before. -/
theorem missingResult_sublist (settings : Settings) (signature : Signature) :
    ((resultReport settings signature comment').filter (·.kind.isMissingTag)).Sublist
      ((resultReport settings signature comment).filter (·.kind.isMissingTag)) := by
  have duplicates (comment : Comment) {first : Tag} {others : List Tag}
      (tags : resultTags comment = first :: others) :
      (resultReport settings signature comment).filter (·.kind.isMissingTag) = [] := by
    rw [List.filter_eq_nil_iff]
    intro finding member
    simp only [resultReport, tags] at member
    split at member
    · cases member
    · obtain ⟨tag, -, rfl⟩ := List.mem_map.mp member
      simp [Diagnostic.Kind.isMissingTag]
  cases tags' : resultTags comment' with
  | cons first others =>
      rw [duplicates comment' tags']
      exact List.nil_sublist _
  | nil =>
      have kinds :
          ((resultTags comment).map Tag.kind).Sublist ((resultTags comment').map Tag.kind) :=
        more.sublist_map_filter (fun _ => rfl) (fun _ => rfl)
      have tags : resultTags comment = [] := by
        rw [tags', List.map_nil, List.sublist_nil, List.map_eq_nil_iff] at kinds
        exact kinds
      refine List.Sublist.filter _ ?_
      simp only [resultReport, tags, tags']
      split
      · exact List.Sublist.refl _
      · split
        · exact List.nil_sublist _
        · next missing =>
            rw [if_neg]
            intro excused
            apply missing
            simp only [Bool.or_eq_true, Bool.and_eq_true] at excused ⊢
            exact excused.imp (Or.imp_right more.isInherited_of_isInherited)
              (And.imp_right more.mentionsReturn_of_mentionsReturn)

/-- The exceptions after all tags: the marks of the tags that were there before, and one more mark
at most. -/
theorem ahead_settledThrows (resolver : Resolver α) (signature : Signature) :
    Declared.Ahead (settledThrows resolver signature comment).2
      (settledThrows resolver signature comment').2 := by
  obtain ⟨front, back, here, there⟩ := more.tags
  have names (comment : Comment) : (throwsTags comment).map documentedName =
      ((comment.tags.map Tag.unplaced).filter (·.kind = .throws)).map documentedName :=
    (Tag.map_filter_unplaced (fun _ => rfl) (fun _ => rfl) comment.tags).symm
  rw [settledThrows, settleThrows_snd, names, here, settledThrows, settleThrows_snd, names, there]
  simp only [List.filter_append, List.map_append]
  refine ahead_documentAll_insert _ _ ?_ _
  rw [List.length_map]
  exact Tag.length_filter_unplacedOf line (by decide)

theorem missingThrows_sublist (resolver : Resolver α) (settings : Settings)
    (signature : Signature) :
    (missingThrows resolver settings signature comment').Sublist
      (missingThrows resolver settings signature comment) := by
  by_cases excused : (settings.allowMissingThrows || isInherited comment') = true
  · rw [missingThrows, if_pos excused]
    exact List.nil_sublist _
  · have checked : ¬ (settings.allowMissingThrows || isInherited comment) = true := by
      intro excused'
      rw [Bool.or_eq_true] at excused excused'
      exact excused (excused'.imp_right more.isInherited_of_isInherited)
    rw [missingThrows, if_neg excused, missingThrows, if_neg checked]
    exact (more.ahead_settledThrows resolver signature).filter_not_found.1.map _

theorem isInherited_eq_of_unmarked (unmarked : ¬ Tag.HasMarker line.toList) :
    isInherited comment' = isInherited comment := by
  rw [Bool.eq_iff_iff, isInherited_iff, isInherited_iff, more.marked, or_iff_left unmarked]

theorem length_missingThrows_le (resolver : Resolver α) (settings : Settings)
    (signature : Signature) (unmarked : ¬ Tag.HasMarker line.toList) :
    (missingThrows resolver settings signature comment).length ≤
      (missingThrows resolver settings signature comment').length + 1 := by
  rw [missingThrows, missingThrows, more.isInherited_eq_of_unmarked unmarked]
  split
  · exact Nat.zero_le _
  · rw [List.length_map, List.length_map]
    exact (more.ahead_settledThrows resolver signature).filter_not_found.2

end Extends

/-- A line that is put into a comment makes nothing missing: the parameters, the result and the
exceptions that are said to be missing afterwards were so before, in the same places and the same
order. Unless there is a marker in the line, one exception at most is no longer missing. -/
theorem inserted_line_makes_nothing_missing (settings : Settings) (resolver : Resolver α)
    (signature : Signature) (comment : Comment) (index : Nat) (line : String) :
    ((verify settings resolver signature (some (comment.insertLine index line))).filter
          (·.kind.isMissingTag)).Sublist
        ((verify settings resolver signature (some comment)).filter (·.kind.isMissingTag)) ∧
      (¬ Tag.HasMarker line.toList →
        ((verify settings resolver signature (some comment)).filter
            (·.kind = .expectedThrows)).length ≤
          ((verify settings resolver signature (some (comment.insertLine index line))).filter
            (·.kind = .expectedThrows)).length + 1) := by
  have more := extends_insertLine comment index line
  by_cases inScope : settings.inScope signature.visibility = true
  · cases inherited : isInherited (comment.insertLine index line) with
    | true =>
        refine ⟨?_, fun unmarked => ?_⟩
        · rw [filter_verify_of_inherited settings resolver signature inherited
            Diagnostic.Kind.isMissingTag fun _ missing => missing]
          exact List.nil_sublist _
        · rw [more.isInherited_eq_of_unmarked unmarked] at inherited
          rw [filter_verify_of_inherited settings resolver signature inherited
            (· = .expectedThrows) (by simp [Diagnostic.Kind.isMissingTag])]
          exact Nat.zero_le _
    | false =>
        have inherited' : isInherited comment = false := by
          rw [← Bool.not_eq_true]
          intro marked
          rw [more.isInherited_of_isInherited marked] at inherited
          cases inherited
        rw [verify_eq_findings_of_unmarked inScope inherited,
          verify_eq_findings_of_unmarked inScope inherited']
        refine ⟨?_, fun unmarked => ?_⟩
        · rw [filter_isMissingTag_findings, filter_isMissingTag_findings]
          exact ((more.missingParams_sublist settings signature).append
            (more.missingResult_sublist settings signature)).append
              (more.missingThrows_sublist resolver settings signature)
        · rw [filter_expectedThrows_findings, filter_expectedThrows_findings]
          exact more.length_missingThrows_le resolver settings signature unmarked
  · simp [verify, inScope]

/-- A function with three exceptions. -/
def fetchSignature : Signature where
  name := "fetch"
  position := ⟨9, 5⟩
  parameters := [⟨"n", false, some 9, some 20⟩]
  exceptions := [⟨"java.io.IOException", none, none⟩, ⟨"java.io.FileNotFoundException", none, none⟩,
    ⟨"java.util.concurrent.TimeoutException", some 10, some 12⟩]
  returnsValue := true

/-- A comment whose only tag names a class that all exceptions extend. -/
def fetchComment : Comment where
  lines := ["/** Fetches a page.", " * @throws java.lang.Exception if it fails */"]

/-- A tag for the first exception sends the tag behind it on to the second one. -/
theorem inserted_line_diverts_next_tag :
    ¬ Tag.HasMarker " * @throws java.io.IOException first".toList ∧
      (verify {} (ClassTable.withStandard []).resolver fetchSignature
          (some (fetchComment.insertLine 1 " * @throws java.io.IOException first"))).length = 3 ∧
      ((verify {} (ClassTable.withStandard []).resolver fetchSignature
          (some (fetchComment.insertLine 1 " * @throws java.io.IOException first"))).filter
            (·.kind.isMissingTag)).Sublist
        [⟨.expectedParam, ⟨9, 20⟩, ["@param", "n"]⟩, ⟨.expectedReturn, ⟨9, 5⟩, []⟩,
          ⟨.expectedThrows, ⟨9, 5⟩, ["@throws", "java.io.FileNotFoundException"]⟩,
          ⟨.expectedThrows, ⟨10, 12⟩, ["@throws", "java.util.concurrent.TimeoutException"]⟩] ∧
      2 ≤ ((verify {} (ClassTable.withStandard []).resolver fetchSignature
          (some (fetchComment.insertLine 1 " * @throws java.io.IOException first"))).filter
            (·.kind = .expectedThrows)).length + 1 := by
  have unmarked : ¬ Tag.HasMarker " * @throws java.io.IOException first".toList := by
    decide +kernel
  obtain ⟨missing, throws⟩ := inserted_line_makes_nothing_missing {}
    (ClassTable.withStandard []).resolver fetchSignature fetchComment 1
    " * @throws java.io.IOException first"
  have before : verify {} (ClassTable.withStandard []).resolver fetchSignature (some fetchComment) =
      [⟨.expectedParam, ⟨9, 20⟩, ["@param", "n"]⟩, ⟨.expectedReturn, ⟨9, 5⟩, []⟩,
        ⟨.expectedThrows, ⟨9, 5⟩, ["@throws", "java.io.FileNotFoundException"]⟩,
        ⟨.expectedThrows, ⟨10, 12⟩, ["@throws", "java.util.concurrent.TimeoutException"]⟩] := by
    decide +kernel
  rw [before] at missing throws
  exact ⟨unmarked, by decide +kernel, missing, throws unmarked⟩

end Verification

end JavadocAudit

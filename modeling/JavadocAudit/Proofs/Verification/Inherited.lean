import JavadocAudit.Proofs.Tag.Marker
import JavadocAudit.Proofs.Verification.Leniency

/-!
# Inherited text

A comment that takes over inherited text need not describe anything itself: the inherited text may
do so. This is all that a marker means. Settings that forgive everything that is missing find the
same as any other settings, and what is too much is found as in any other comment. Only a marker
that stands alone is taken for the whole comment, and is then itself at fault if the declaration has
nothing to inherit from.

The marker is consulted by each group of findings that can say that something is missing. The result
goes back to the effect of leniency on a whole check: no finding is left that leniency could take
away.
-/

namespace JavadocAudit

def Comment.HasMarker (comment : Comment) : Prop :=
  ∃ line ∈ comment.lines, Tag.HasMarker line.toList

instance : DecidablePred Comment.HasMarker := fun comment =>
  inferInstanceAs (Decidable (∃ line ∈ comment.lines, Tag.HasMarker line.toList))

/-- Findings of this kind say that a tag is missing. -/
def Diagnostic.Kind.isMissingTag : Diagnostic.Kind → Bool
  | .expectedParam | .expectedReturn | .expectedThrows => true
  | _ => false

/-- Nothing but a missing tag is forgiven, apart from a missing comment. -/
theorem Leniency.forgives_congr {first second : Leniency} {kind : Diagnostic.Kind}
    (comment : first.comment = second.comment) (present : kind.isMissingTag = false) :
    first.forgives kind = second.forgives kind := by
  cases kind with
  | missingJavadoc => exact comment
  | expectedParam | expectedReturn | expectedThrows => cases present
  | invalidInheritDoc | duplicateTag | unusedTag | mixedStyle => rfl

namespace Settings

/-- What may be missing under these settings. -/
def leniency (settings : Settings) : Leniency where
  comment := settings.allowMissingComment
  params := settings.allowMissingParams
  result := settings.allowMissingReturn
  throws := settings.allowMissingThrows

/-- The same settings, but any tag may be missing. -/
def forgivingTags (settings : Settings) : Settings :=
  { settings with
    allowMissingParams := true
    allowMissingReturn := true
    allowMissingThrows := true }

end Settings

/-- The markers of a comment are those of its lines. -/
theorem Comment.exists_inheritDoc_iff {comment : Comment} :
    (∃ tag ∈ comment.tags, tag.kind = .inheritDoc) ↔ comment.HasMarker := by
  constructor
  · rintro ⟨tag, member, kind⟩
    obtain ⟨row, line, inLine, numbered, found, rfl⟩ := mem_tags_iff.mp member
    exact ⟨line, List.mem_of_getElem? numbered,
      Tag.exists_inheritDoc_ofLine_iff.mp ⟨inLine, found, kind⟩⟩
  · rintro ⟨line, inComment, marked⟩
    obtain ⟨row, numbered⟩ := List.getElem?_of_mem inComment
    obtain ⟨inLine, found, kind⟩ := Tag.exists_inheritDoc_ofLine_iff.mpr marked
    exact ⟨inLine.place comment row,
      mem_tags_iff.mpr ⟨row, line, inLine, numbered, found, rfl⟩, kind⟩

namespace Verification

variable {α : Type} {settings : Settings} {resolver : Resolver α} {signature : Signature}
variable {comment : Comment} {finding : Diagnostic}

theorem isInherited_iff : isInherited comment = true ↔ comment.HasMarker := by
  rw [← Comment.exists_inheritDoc_iff]
  simp [isInherited]

section Missing

variable (inherited : isInherited comment = true)
include inherited

theorem missingParams_of_inherited : missingParams settings signature comment = [] := by
  rw [missingParams, if_pos (by simp [inherited])]

theorem missingThrows_of_inherited : missingThrows resolver settings signature comment = [] := by
  rw [missingThrows, if_pos (by simp [inherited])]

theorem kind_of_mem_resultReport_of_inherited
    (member : finding ∈ resultReport settings signature comment) :
    finding.kind = .duplicateTag := by
  unfold resultReport at member
  split at member
  · cases member
  · split at member
    · obtain ⟨tag, -, rfl⟩ := List.mem_map.mp member
      rfl
    · simp [inherited] at member

/-- Nothing is missing from a comment that takes over inherited text. -/
theorem isMissingTag_eq_false_of_inherited
    (member : finding ∈ verify settings resolver signature (some comment)) :
    finding.kind.isMissingTag = false := by
  rcases mem_verify_cases member with lone | inFindings
  · rw [lone]
    rfl
  · simp only [findings, List.mem_append, missingParams_of_inherited inherited,
      missingThrows_of_inherited inherited, List.not_mem_nil, false_or, or_false] at inFindings
    rcases inFindings with (((mixed | params) | result) | throws) | stray
    · rw [kind_of_mem_mixedStyle mixed]
      rfl
    · rw [kind_of_mem_map_unused params]
      rfl
    · rw [kind_of_mem_resultReport_of_inherited inherited result]
      rfl
    · rw [kind_of_mem_map_unused throws]
      rfl
    · rw [kind_of_mem_map_unused stray]
      rfl

/-- To forgive what is missing changes nothing about such a comment. -/
theorem verify_eq_verify_forgivingTags (settings : Settings) (resolver : Resolver α)
    (signature : Signature) :
    verify settings resolver signature (some comment) =
      verify settings.forgivingTags resolver signature (some comment) :=
  calc verify settings resolver signature (some comment)
    _ = (verify (settings.lenient {}) resolver signature (some comment)).filter
          (!settings.leniency.forgives ·.kind) :=
        verify_lenient settings settings.leniency resolver signature (some comment)
    _ = (verify (settings.lenient {}) resolver signature (some comment)).filter
          (!settings.forgivingTags.leniency.forgives ·.kind) := by
        refine List.filter_congr fun finding member => ?_
        have present := isMissingTag_eq_false_of_inherited inherited member
        exact congrArg not (Leniency.forgives_congr rfl present)
    _ = verify settings.forgivingTags resolver signature (some comment) :=
        (verify_lenient settings settings.forgivingTags.leniency resolver signature
          (some comment)).symm

end Missing

section LoneMarker

theorem mayInheritDoc_eq_false_iff :
    signature.mayInheritDoc = false ↔
      signature.isConstructor = true ∨ signature.isStatic = true ∨
        signature.visibility = .privateAccess := by
  rw [Signature.mayInheritDoc, Bool.not_eq_false']
  simp only [Bool.or_eq_true, decide_eq_true_eq, or_assoc]

/-- A lone marker that has nothing to inherit from is all that is found. -/
theorem verify_of_lone_marker {tag : Tag} (inScope : settings.inScope signature.visibility = true)
    (nothing : signature.mayInheritDoc = false) (single : comment.tags = [tag])
    (kind : tag.kind = .inheritDoc) :
    verify settings resolver signature (some comment) =
      [⟨.invalidInheritDoc, tag.position, []⟩] := by
  have lone : loneInheritDoc? comment.tags = some tag :=
    loneInheritDoc?_eq_some_iff.mpr ⟨single, kind⟩
  simp [verify, inScope, lone, nothing]

/-- Only a lone marker is reported as a marker. -/
theorem exists_lone_marker_of_mem_verify
    (member : finding ∈ verify settings resolver signature (some comment))
    (invalid : finding.kind = .invalidInheritDoc) :
    settings.inScope signature.visibility = true ∧ signature.mayInheritDoc = false ∧
      ∃ tag, comment.tags = [tag] ∧ tag.kind = .inheritDoc := by
  obtain ⟨inScope, ⟨⟨⟩, -⟩ | ⟨_, ⟨⟩, ⟨tag, lone, nothing, -⟩ | inFindings⟩⟩ :=
    exists_origin_of_mem_verify member
  · exact ⟨inScope, nothing, tag, loneInheritDoc?_eq_some_iff.mp lone⟩
  · exact absurd invalid (kind_ne_invalidInheritDoc_of_mem_findings inFindings)

end LoneMarker

/-- A marker for inherited text excuses whatever is missing, and nothing else: settings that forgive
all missing tags make no difference to a comment that has one. The marker itself is reported exactly
if it stands alone in the comment of a declaration that is checked and has nothing to inherit from,
and then nothing else is. -/
theorem marker_only_excuses_missing_tags (settings : Settings) (resolver : Resolver α)
    (signature : Signature) (comment : Comment) (marked : comment.HasMarker) :
    verify settings resolver signature (some comment) =
        verify settings.forgivingTags resolver signature (some comment) ∧
      ((∃ finding ∈ verify settings resolver signature (some comment),
          finding.kind = .invalidInheritDoc) ↔
        settings.inScope signature.visibility = true ∧
          (∃ tag, comment.tags = [tag] ∧ tag.kind = .inheritDoc) ∧
          (signature.isConstructor = true ∨ signature.isStatic = true ∨
            signature.visibility = .privateAccess)) ∧
      ∀ finding ∈ verify settings resolver signature (some comment),
        finding.kind = .invalidInheritDoc →
          verify settings resolver signature (some comment) = [finding] := by
  refine ⟨verify_eq_verify_forgivingTags (isInherited_iff.mpr marked) settings resolver signature,
    ⟨?_, ?_⟩, ?_⟩
  · rintro ⟨finding, member, invalid⟩
    obtain ⟨inScope, nothing, lone⟩ := exists_lone_marker_of_mem_verify member invalid
    exact ⟨inScope, lone, mayInheritDoc_eq_false_iff.mp nothing⟩
  · rintro ⟨inScope, ⟨tag, single, kind⟩, nothing⟩
    rw [verify_of_lone_marker inScope (mayInheritDoc_eq_false_iff.mpr nothing) single kind]
    exact ⟨_, List.mem_singleton_self _, rfl⟩
  · intro finding member invalid
    obtain ⟨inScope, nothing, tag, single, kind⟩ := exists_lone_marker_of_mem_verify member invalid
    rw [verify_of_lone_marker inScope nothing single kind] at member ⊢
    rw [List.mem_singleton.mp member]

/-- A comment that takes over inherited text and has a tag too many. -/
def amendedComment : Comment where
  lines := ["/** \x7b @inheritDoc\t\x7d", " * @param q stray */"]

/-- A comment that takes over inherited text and says nothing else. -/
def loneMarkerComment : Comment where
  lines := ["/**", " * See \x7b@inheritDoc\x7d */"]

/-- Of everything that a function lacks, nothing is reported; the tag too many is. A lone marker is
reported if the function is static. -/
theorem marker_excuses_pollSignature :
    amendedComment.HasMarker ∧ loneMarkerComment.HasMarker ∧
      verify {} (ClassTable.withStandard []).resolver pollSignature (some amendedComment) =
        [⟨.unusedTag, ⟨2, 4⟩, ["@param", "q"]⟩] ∧
      ∃ finding,
        verify {} (ClassTable.withStandard []).resolver { pollSignature with isStatic := true }
            (some loneMarkerComment) = [finding] ∧
          finding.kind = .invalidInheritDoc := by
  have amended : amendedComment.HasMarker := by decide +kernel
  have lone : loneMarkerComment.HasMarker := by decide +kernel
  have single : loneMarkerComment.tags = [⟨.inheritDoc, "inheritDoc", ⟨2, 9⟩, none, ""⟩] := by
    decide +kernel
  obtain ⟨forgiven, -, -⟩ := marker_only_excuses_missing_tags {}
    (ClassTable.withStandard []).resolver pollSignature amendedComment amended
  obtain ⟨-, reported, only⟩ := marker_only_excuses_missing_tags {}
    (ClassTable.withStandard []).resolver { pollSignature with isStatic := true }
    loneMarkerComment lone
  obtain ⟨finding, member, invalid⟩ := reported.mpr ⟨rfl, ⟨_, single, rfl⟩, .inr (.inl rfl)⟩
  refine ⟨amended, lone, ?_, finding, only finding member invalid, invalid⟩
  rw [forgiven]
  decide +kernel

end Verification

end JavadocAudit

import JavadocAudit.Proofs.Tag.Place
import JavadocAudit.Proofs.Verification.Findings
import JavadocAudit.Proofs.Verification.Params
import JavadocAudit.Proofs.Verification.Throws

/-!
# The order of the findings

The findings on a comment come in seven groups. Three groups are about the declaration and follow
its order: parameters without a description, the result if nothing describes it, exceptions without
a tag. The others are about tags, and follow the comment: its tags are in strict reading order, and
each of these groups leaves some of them out. A group for the result is of one sort or of the other,
for there is nothing missing if there is a tag too many.
-/

namespace JavadocAudit

/-- The type that an exception was declared with. -/
def Declared.thrown {α : Type} (d : Declared α) : ThrownType := ⟨d.name, d.line, d.column⟩

namespace Verification

variable {α : Type} {settings : Settings} {resolver : Resolver α} {signature : Signature}
variable {comment : Comment}

/-- Findings by what they are about. -/
structure Groups where
  missingParams : List Diagnostic := []
  mixedStyle : List Diagnostic := []
  unusedParams : List Diagnostic := []
  result : List Diagnostic := []
  unusedThrows : List Diagnostic := []
  missingThrows : List Diagnostic := []
  strayTags : List Diagnostic := []

def Groups.inOrder (groups : Groups) : List Diagnostic :=
  groups.missingParams ++ groups.mixedStyle ++ groups.unusedParams ++ groups.result
    ++ groups.unusedThrows ++ groups.missingThrows ++ groups.strayTags

def duplicateResult (tag : Tag) : Diagnostic := ⟨.duplicateTag, tag.position, ["@return"]⟩

/-- The report on a thrown type that no tag documents. -/
def expectedThrown (signature : Signature) (thrown : ThrownType) : Diagnostic :=
  ⟨.expectedThrows,
    ⟨orElse thrown.line signature.position.line, orElse thrown.column signature.position.column⟩,
    ["@throws", thrown.name]⟩

/-- Reports on some of the tags of these kinds, from the first of them to the last. -/
structure FollowsTags (comment : Comment) (kinds : List Tag.Kind) (report : Tag → Diagnostic)
    (group : List Diagnostic) : Prop where
  reports : ∃ tags : List Tag, tags.Sublist comment.tags ∧ (∀ tag ∈ tags, tag.kind ∈ kinds) ∧
    group = tags.map report
  ordered : group.Pairwise fun first second => first.position.Before second.position

structure Groups.Follow (groups : Groups) (signature : Signature) (comment : Comment) : Prop where
  missingParams : ∃ params : List Parameter,
    params.Sublist (signature.parameters ++ signature.typeParameters) ∧
      groups.missingParams = params.map (expectedParam signature)
  mixedStyle : groups.mixedStyle = [] ∨ groups.mixedStyle = [⟨.mixedStyle, comment.start, []⟩]
  unusedParams : FollowsTags comment [.param] Tag.unused groups.unusedParams
  result : FollowsTags comment [.result] duplicateResult groups.result ∨
    groups.result = [⟨.expectedReturn, signature.position, []⟩]
  unusedThrows : FollowsTags comment [.throws] Tag.unused groups.unusedThrows
  missingThrows : ∃ thrown : List ThrownType, thrown.Sublist signature.exceptions ∧
    groups.missingThrows = thrown.map (expectedThrown signature)
  strayTags : FollowsTags comment [.result, .nameless] Tag.unused groups.strayTags

/-- The findings on a comment that is looked at, group by group. -/
def groupsOf (settings : Settings) (resolver : Resolver α) (signature : Signature)
    (comment : Comment) : Groups :=
  if settings.inScope signature.visibility then
    { missingParams := missingParams settings signature comment
      mixedStyle := mixedStyle settings signature comment
      unusedParams := unusedParams settings signature comment
      result := resultReport settings signature comment
      unusedThrows := unusedThrows resolver settings signature comment
      missingThrows := missingThrows resolver settings signature comment
      strayTags := strayTags signature comment }
  else {}

/-- Tags that are left out do not change the order of the others. -/
theorem FollowsTags.of_sublist {kinds : List Tag.Kind} {report : Tag → Diagnostic}
    {keep : Tag → Bool} {tags : List Tag} (sub : tags.Sublist (comment.tags.filter keep))
    (kind : ∀ tag, keep tag = true → tag.kind ∈ kinds)
    (inPlace : ∀ tag, (report tag).position = tag.position) :
    FollowsTags comment kinds report (tags.map report) := by
  have inComment : tags.Sublist comment.tags := sub.trans List.filter_sublist
  refine ⟨⟨tags, inComment, ?_, rfl⟩, List.pairwise_map.mpr ?_⟩
  · intro tag member
    exact kind tag (List.mem_filter.mp (sub.subset member)).2
  · simp only [inPlace]
    exact comment.pairwise_tags.sublist inComment

theorem FollowsTags.nil {kinds : List Tag.Kind} {report : Tag → Diagnostic} :
    FollowsTags comment kinds report [] :=
  ⟨⟨[], List.nil_sublist _, by simp, rfl⟩, .nil⟩

theorem documentedParams_sublist (settings : Settings) (signature : Signature) :
    (documentedParams settings signature).Sublist
      (signature.parameters ++ signature.typeParameters) :=
  List.filter_sublist

/-- What is missing of the parameters is missing in the order of the declaration. -/
theorem missingParams_follows (settings : Settings) (signature : Signature) (comment : Comment) :
    ∃ params : List Parameter, params.Sublist (documentedParams settings signature) ∧
      missingParams settings signature comment = params.map (expectedParam signature) := by
  by_cases forgiven : (settings.allowMissingParams || isInherited comment) = true
  · exact ⟨[], List.nil_sublist _, by rw [missingParams, if_pos forgiven]; rfl⟩
  · have documented : (settledParams settings signature comment).1.map Prod.fst =
        documentedParams settings signature := map_fst_settleParams ..
    refine ⟨((settledParams settings signature comment).1.filter (·.2 = .missing)).map Prod.fst,
      ?_, ?_⟩
    · have inDocumented := (List.filter_sublist (p := fun settled => decide (settled.2 = .missing))
        (l := (settledParams settings signature comment).1)).map Prod.fst
      rwa [documented] at inDocumented
    · rw [missingParams, if_neg forgiven, List.map_map]
      rfl

theorem mixedStyle_follows (settings : Settings) (signature : Signature) (comment : Comment) :
    mixedStyle settings signature comment = [] ∨
      mixedStyle settings signature comment = [⟨.mixedStyle, comment.start, []⟩] := by
  simp only [mixedStyle]
  split
  · exact .inr rfl
  · exact .inl rfl

theorem unusedParams_follows (settings : Settings) (signature : Signature) (comment : Comment) :
    FollowsTags comment [.param] Tag.unused (unusedParams settings signature comment) := by
  refine .of_sublist (settleParams_left_sublist ..) ?_ fun _ => rfl
  intro tag keep
  simpa using (Bool.and_eq_true_iff.mp keep).1

/-- Reports on a result are about tags too many, or about a single thing that is missing. -/
theorem resultReport_follows (settings : Settings) (signature : Signature) (comment : Comment) :
    FollowsTags comment [.result] duplicateResult (resultReport settings signature comment) ∨
      resultReport settings signature comment = [⟨.expectedReturn, signature.position, []⟩] := by
  unfold resultReport
  split
  · exact .inl .nil
  · split
    · next first duplicates tags =>
        have later : duplicates.Sublist (resultTags comment) := by
          rw [tags]
          exact List.sublist_cons_self first duplicates
        exact .inl (.of_sublist later (by simp) fun _ => rfl)
    · split
      · exact .inl .nil
      · exact .inr rfl

theorem unusedThrows_follows (resolver : Resolver α) (settings : Settings) (signature : Signature)
    (comment : Comment) :
    FollowsTags comment [.throws] Tag.unused
      (unusedThrows resolver settings signature comment) := by
  have left : (settledThrows resolver signature comment).1.Sublist (throwsTags comment) := by
    rw [settledThrows, settleThrows_left]
    exact List.filter_sublist
  refine .of_sublist (List.filter_sublist.trans left) ?_ fun _ => rfl
  simp

/-- The exceptions are still those of the declaration once all tags have been settled. -/
theorem map_thrown_settledThrows (resolver : Resolver α) (signature : Signature)
    (comment : Comment) :
    (settledThrows resolver signature comment).2.map Declared.thrown = signature.exceptions := by
  rw [settledThrows, map_settleThrows fun _ => rfl, declaredExceptions, List.map_map]
  exact List.map_id _

/-- What is missing of the exceptions is missing in the order of the declaration. -/
theorem missingThrows_follows (resolver : Resolver α) (settings : Settings)
    (signature : Signature) (comment : Comment) :
    ∃ thrown : List ThrownType, thrown.Sublist signature.exceptions ∧
      missingThrows resolver settings signature comment =
        thrown.map (expectedThrown signature) := by
  by_cases forgiven : (settings.allowMissingThrows || isInherited comment) = true
  · exact ⟨[], List.nil_sublist _, by rw [missingThrows, if_pos forgiven]; rfl⟩
  · refine ⟨((settledThrows resolver signature comment).2.filter (!·.found)).map Declared.thrown,
      ?_, ?_⟩
    · have inSettled := (List.filter_sublist (p := fun d => !d.found)
        (l := (settledThrows resolver signature comment).2)).map Declared.thrown
      rwa [map_thrown_settledThrows] at inSettled
    · rw [missingThrows, if_neg forgiven, List.map_map]
      rfl

theorem strayTags_follows (signature : Signature) (comment : Comment) :
    FollowsTags comment [.result, .nameless] Tag.unused (strayTags signature comment) := by
  refine .of_sublist (List.Sublist.refl _) ?_ fun _ => rfl
  intro tag keep
  rcases Bool.or_eq_true_iff.mp keep with nameless | result
  · simp [of_decide_eq_true nameless]
  · simp [of_decide_eq_true (Bool.and_eq_true_iff.mp result).1]

section Unused

/-- The finding says that a tag of this kind is of no use. -/
def reportsUnused (comment : Comment) (kind : Tag.Kind) (finding : Diagnostic) : Bool :=
  finding.kind = .unusedTag &&
    comment.tags.any fun tag => tag.kind = kind && tag.position = finding.position

theorem reportsUnused_unused {tag : Tag} (inComment : tag ∈ comment.tags) (kind : Tag.Kind) :
    reportsUnused comment kind tag.unused = decide (tag.kind = kind) := by
  rw [Bool.eq_iff_iff, decide_eq_true_eq]
  constructor
  · intro reported
    obtain ⟨other, member, fits⟩ := List.any_eq_true.mp (Bool.and_eq_true_iff.mp reported).2
    obtain ⟨ofKind, position⟩ := Bool.and_eq_true_iff.mp fits
    rw [← Comment.eq_of_position_eq member inComment (of_decide_eq_true position)]
    exact of_decide_eq_true ofKind
  · rintro rfl
    refine Bool.and_eq_true_iff.mpr ⟨rfl, List.any_eq_true.mpr ⟨tag, inComment, ?_⟩⟩
    simp [Tag.unused]

variable {group : List Diagnostic} {kind : Tag.Kind}

theorem FollowsTags.filter_reportsUnused (follows : FollowsTags comment [kind] Tag.unused group) :
    group.filter (reportsUnused comment kind) = group := by
  obtain ⟨tags, sub, ofKind, rfl⟩ := follows.reports
  rw [List.filter_eq_self]
  intro finding member
  obtain ⟨tag, inTags, rfl⟩ := List.mem_map.mp member
  rw [reportsUnused_unused (sub.subset inTags), decide_eq_true_eq]
  exact List.mem_singleton.mp (ofKind tag inTags)

theorem FollowsTags.filter_reportsUnused_eq_nil {kinds : List Tag.Kind}
    (follows : FollowsTags comment kinds Tag.unused group) (others : kind ∉ kinds) :
    group.filter (reportsUnused comment kind) = [] := by
  obtain ⟨tags, sub, ofKind, rfl⟩ := follows.reports
  rw [List.filter_eq_nil_iff]
  intro finding member
  obtain ⟨tag, inTags, rfl⟩ := List.mem_map.mp member
  rw [reportsUnused_unused (sub.subset inTags), decide_eq_true_eq]
  rintro rfl
  exact others (ofKind tag inTags)

/-- Three of the groups say that tags are of no use. -/
theorem filter_reportsUnused_findings (resolver : Resolver α) (settings : Settings)
    (signature : Signature) (comment : Comment) (kind : Tag.Kind) :
    (findings resolver settings signature comment).filter (reportsUnused comment kind) =
      (unusedParams settings signature comment).filter (reportsUnused comment kind)
        ++ (unusedThrows resolver settings signature comment).filter (reportsUnused comment kind)
        ++ (strayTags signature comment).filter (reportsUnused comment kind) := by
  have split : (findings resolver settings signature comment).filter (reportsUnused comment kind) =
      ((findings resolver settings signature comment).filter (·.kind = .unusedTag)).filter
        (reportsUnused comment kind) := by
    rw [List.filter_filter]
    refine List.filter_congr fun finding _ => ?_
    cases h : reportsUnused comment kind finding with
    | false => rfl
    | true => simpa [reportsUnused] using (Bool.and_eq_true_iff.mp h).1
  rw [split, filter_findings _ _ _ _ (· = .unusedTag),
    filter_resultReport_eq_nil _ _ _ (by decide) (by decide)]
  simp

theorem filter_reportsUnused_param (resolver : Resolver α) (settings : Settings)
    (signature : Signature) (comment : Comment) :
    (findings resolver settings signature comment).filter (reportsUnused comment .param) =
      unusedParams settings signature comment := by
  rw [filter_reportsUnused_findings, (unusedParams_follows ..).filter_reportsUnused,
    (unusedThrows_follows ..).filter_reportsUnused_eq_nil (by decide),
    (strayTags_follows ..).filter_reportsUnused_eq_nil (by decide), List.append_nil,
    List.append_nil]

theorem filter_reportsUnused_throws (resolver : Resolver α) (settings : Settings)
    (signature : Signature) (comment : Comment) :
    (findings resolver settings signature comment).filter (reportsUnused comment .throws) =
      unusedThrows resolver settings signature comment := by
  rw [filter_reportsUnused_findings, (unusedThrows_follows ..).filter_reportsUnused,
    (unusedParams_follows ..).filter_reportsUnused_eq_nil (by decide),
    (strayTags_follows ..).filter_reportsUnused_eq_nil (by decide), List.append_nil,
    List.nil_append]

end Unused

theorem follow_groupsOf (settings : Settings) (resolver : Resolver α) (signature : Signature)
    (comment : Comment) :
    (groupsOf settings resolver signature comment).Follow signature comment := by
  unfold groupsOf
  split
  · obtain ⟨params, inDocumented, missing⟩ := missingParams_follows settings signature comment
    exact
      { missingParams :=
          ⟨params, inDocumented.trans (documentedParams_sublist settings signature), missing⟩
        mixedStyle := mixedStyle_follows settings signature comment
        unusedParams := unusedParams_follows settings signature comment
        result := resultReport_follows settings signature comment
        unusedThrows := unusedThrows_follows resolver settings signature comment
        missingThrows := missingThrows_follows resolver settings signature comment
        strayTags := strayTags_follows signature comment }
  · exact
      { missingParams := ⟨[], List.nil_sublist _, rfl⟩
        mixedStyle := .inl rfl
        unusedParams := .nil
        result := .inl .nil
        unusedThrows := .nil
        missingThrows := ⟨[], List.nil_sublist _, rfl⟩
        strayTags := .nil }

/-- The findings are reported group by group, and every group follows the declaration or the
comment. -/
theorem verify_reports_groups_in_order (settings : Settings) (resolver : Resolver α)
    (signature : Signature) (comment : Comment)
    (notLone : ∀ tag, comment.tags = [tag] → tag.kind ≠ .inheritDoc) :
    verify settings resolver signature (some comment) =
        (groupsOf settings resolver signature comment).inOrder ∧
      (groupsOf settings resolver signature comment).Follow signature comment := by
  refine ⟨?_, follow_groupsOf settings resolver signature comment⟩
  unfold groupsOf
  by_cases inScope : settings.inScope signature.visibility = true
  · rw [verify_eq_findings inScope notLone, if_pos inScope]
    rfl
  · rw [if_neg inScope]
    simp [verify, inScope, Groups.inOrder]

/-- A function of three arguments with two exceptions. -/
def pollSignature : Signature where
  name := "poll"
  position := ⟨12, 5⟩
  parameters := [⟨"a", false, none, none⟩, ⟨"b", false, none, none⟩, ⟨"c", false, some 12, some 20⟩]
  exceptions := [⟨"java.io.IOException", some 13, some 16⟩, ⟨"TimeoutException", none, none⟩]
  returnsValue := true

/-- A comment with something to report in every group, and not in the order of the report. -/
def pollComment : Comment where
  lines :=
    ["/** Waits for B.", " * @throws IllegalStateException never", " * @throws",
     " * @return x", " * @param q stray", " * @param a first", " * @return y",
     " * @throws java.util.concurrent.TimeoutException late */"]

theorem verify_pollComment_in_order :
    (∀ tag, pollComment.tags = [tag] → tag.kind ≠ .inheritDoc) ∧
      verify { allowNarrativeParams := true } (ClassTable.withStandard []).resolver pollSignature
          (some pollComment) =
        [⟨.expectedParam, ⟨12, 20⟩, ["@param", "c"]⟩, ⟨.mixedStyle, ⟨1, 1⟩, []⟩,
         ⟨.unusedTag, ⟨5, 4⟩, ["@param", "q"]⟩, ⟨.duplicateTag, ⟨7, 4⟩, ["@return"]⟩,
         ⟨.unusedTag, ⟨2, 4⟩, ["@throws", "IllegalStateException"]⟩,
         ⟨.expectedThrows, ⟨13, 16⟩, ["@throws", "java.io.IOException"]⟩,
         ⟨.unusedTag, ⟨3, 4⟩, ["@throws"]⟩] := by
  have several : pollComment.tags.length = 7 := by decide +kernel
  have notLone : ∀ tag, pollComment.tags = [tag] → tag.kind ≠ .inheritDoc := by
    intro tag single
    simp [single] at several
  refine ⟨notLone, ?_⟩
  rw [(verify_reports_groups_in_order { allowNarrativeParams := true }
    (ClassTable.withStandard []).resolver pollSignature pollComment notLone).1]
  decide +kernel

end Verification

end JavadocAudit

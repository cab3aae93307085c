import JavadocAudit.Proofs.Verification.Order

/-!
# Leniency as a filter

Settings may forgive that something is missing: a comment, the description of a parameter or of the
result, the tag for an exception. They may also tolerate tags for unchecked exceptions that are not
declared. Each of these options only takes findings away: a lenient check finds what a strict check
finds, without the findings that are forgiven, and in the same order.

What is missing is forgiven by its kind. An undeclared exception is tolerated tag by tag; since no
two tags share a position, the report on a tag tells the tag, and the reports to be taken away are
known by themselves.
-/

namespace JavadocAudit

/-- What may be missing without being reported. -/
structure Leniency where
  comment : Bool := false
  params : Bool := false
  result : Bool := false
  throws : Bool := false
  deriving DecidableEq, Repr

/-- Findings of this kind are forgiven. -/
def Leniency.forgives (leniency : Leniency) : Diagnostic.Kind → Bool
  | .missingJavadoc => leniency.comment
  | .expectedParam => leniency.params
  | .expectedReturn => leniency.result
  | .expectedThrows => leniency.throws
  | _ => false

namespace Settings

/-- The same settings, but for what may be missing. -/
def lenient (settings : Settings) (leniency : Leniency) : Settings :=
  { settings with
    allowMissingComment := leniency.comment
    allowMissingParams := leniency.params
    allowMissingReturn := leniency.result
    allowMissingThrows := leniency.throws }

/-- The same settings, but for tags on unchecked exceptions that are not declared. -/
def tolerating (settings : Settings) (undeclared : Bool) : Settings :=
  { settings with allowUndeclaredUnchecked := undeclared }

end Settings

namespace Verification

variable {α : Type} {settings : Settings} {resolver : Resolver α} {signature : Signature}
variable {comment : Comment}

section Missing

/-- The findings of one kind are forgiven all together or not at all. -/
theorem filter_forgives_of_kind {group : List Diagnostic} {kind : Diagnostic.Kind}
    (same : ∀ finding ∈ group, finding.kind = kind) (leniency : Leniency) :
    group.filter (!leniency.forgives ·.kind) = if leniency.forgives kind then [] else group := by
  cases forgiven : leniency.forgives kind with
  | true =>
      rw [if_pos rfl, List.filter_eq_nil_iff]
      intro finding member
      simp [same finding member, forgiven]
  | false =>
      rw [if_neg (by simp), List.filter_eq_self]
      intro finding member
      simp [same finding member, forgiven]

/-- A group that is left out for several reasons, of which leniency is the first. -/
theorem ite_forgives_or (leniency : Leniency) (kind : Diagnostic.Kind) (excused : Bool)
    (group : List Diagnostic) (same : ∀ finding ∈ group, finding.kind = kind) :
    (if leniency.forgives kind || excused then [] else group) =
      (if excused then [] else group).filter (!leniency.forgives ·.kind) := by
  cases excused with
  | true => simp
  | false =>
      rw [if_neg Bool.false_ne_true, filter_forgives_of_kind same, Bool.or_false]

theorem missingParams_lenient (settings : Settings) (leniency : Leniency) (signature : Signature)
    (comment : Comment) :
    missingParams (settings.lenient leniency) signature comment =
      (missingParams (settings.lenient {}) signature comment).filter
        (!leniency.forgives ·.kind) := by
  refine ite_forgives_or leniency .expectedParam (isInherited comment) _ ?_
  intro finding member
  obtain ⟨settled, -, rfl⟩ := List.mem_map.mp member
  rfl

/-- A result that lacks a description is forgiven, but no tag too many is. -/
theorem resultReport_lenient (settings : Settings) (leniency : Leniency) (signature : Signature)
    (comment : Comment) :
    resultReport (settings.lenient leniency) signature comment =
      (resultReport (settings.lenient {}) signature comment).filter
        (!leniency.forgives ·.kind) := by
  unfold resultReport
  split
  · rfl
  · cases resultTags comment with
    | nil =>
        have excused := ite_forgives_or leniency .expectedReturn
          (isInherited comment || (settings.allowNarrativeReturn && comment.mentionsReturn))
          [⟨.expectedReturn, signature.position, []⟩] (by simp)
        rw [← Bool.or_assoc] at excused
        exact excused
    | cons first duplicates =>
        symm
        simp [List.filter_eq_self, Leniency.forgives]

theorem missingThrows_lenient (settings : Settings) (leniency : Leniency) (resolver : Resolver α)
    (signature : Signature) (comment : Comment) :
    missingThrows resolver (settings.lenient leniency) signature comment =
      (missingThrows resolver (settings.lenient {}) signature comment).filter
        (!leniency.forgives ·.kind) := by
  refine ite_forgives_or leniency .expectedThrows (isInherited comment) _ ?_
  intro finding member
  obtain ⟨declared, -, rfl⟩ := List.mem_map.mp member
  rfl

/-- Reports on tags are never forgiven. -/
theorem filter_forgives_map_unused (leniency : Leniency) (tags : List Tag) :
    (tags.map Tag.unused).filter (!leniency.forgives ·.kind) = tags.map Tag.unused := by
  rw [filter_forgives_of_kind fun _ => kind_of_mem_map_unused]
  rfl

theorem findings_lenient (settings : Settings) (leniency : Leniency) (resolver : Resolver α)
    (signature : Signature) (comment : Comment) :
    findings resolver (settings.lenient leniency) signature comment =
      (findings resolver (settings.lenient {}) signature comment).filter
        (!leniency.forgives ·.kind) := by
  have mixed : (mixedStyle (settings.lenient {}) signature comment).filter
      (!leniency.forgives ·.kind) = mixedStyle (settings.lenient leniency) signature comment := by
    rw [filter_forgives_of_kind fun _ => kind_of_mem_mixedStyle]
    rfl
  have params : (unusedParams (settings.lenient {}) signature comment).filter
      (!leniency.forgives ·.kind) = unusedParams (settings.lenient leniency) signature comment :=
    filter_forgives_map_unused leniency _
  have throws : (unusedThrows resolver (settings.lenient {}) signature comment).filter
      (!leniency.forgives ·.kind) =
        unusedThrows resolver (settings.lenient leniency) signature comment :=
    filter_forgives_map_unused leniency _
  have stray : (strayTags signature comment).filter (!leniency.forgives ·.kind) =
      strayTags signature comment :=
    filter_forgives_map_unused leniency _
  rw [findings, findings, missingParams_lenient, resultReport_lenient, missingThrows_lenient]
  simp only [List.filter_append, mixed, params, throws, stray]

theorem mayLackComment_lenient (settings : Settings) (leniency : Leniency)
    (signature : Signature) :
    (settings.lenient leniency).mayLackComment signature =
      (leniency.comment || (settings.lenient {}).mayLackComment signature) := by
  simp only [Settings.mayLackComment, Settings.lenient, Bool.false_or, Bool.or_assoc]
  rfl

/-- A lenient check finds what a strict one finds, without what is forgiven. -/
theorem verify_lenient (settings : Settings) (leniency : Leniency) (resolver : Resolver α)
    (signature : Signature) (comment : Option Comment) :
    verify (settings.lenient leniency) resolver signature comment =
      (verify (settings.lenient {}) resolver signature comment).filter
        (!leniency.forgives ·.kind) := by
  have scope : (settings.lenient leniency).inScope = (settings.lenient {}).inScope := rfl
  unfold verify
  rw [scope]
  split
  · rfl
  · cases comment with
    | none =>
        dsimp only
        rw [mayLackComment_lenient]
        exact ite_forgives_or leniency .missingJavadoc _
          [⟨.missingJavadoc, signature.position, []⟩] (by simp)
    | some comment =>
        dsimp only
        cases loneInheritDoc? comment.tags with
        | none => exact findings_lenient settings leniency resolver signature comment
        | some tag =>
            dsimp only
            split
            · rfl
            · rfl

end Missing

section Undeclared

/-- The tag names a class that is known to be unchecked. -/
def namesUnchecked (resolver : Resolver α) (signature : Signature) (tag : Tag) : Bool :=
  match resolver.resolveQuietly (documentedName tag) signature.scope with
  | some (.known info) => resolver.isUncheckedQuietly info
  | _ => false

/-- The tags for unchecked exceptions that match none of the declared ones. -/
def undeclaredUnchecked (resolver : Resolver α) (signature : Signature) (comment : Comment) :
    List Tag :=
  comment.tags.filter fun tag => tag.kind = .throws &&
    (tagMatch? resolver signature.scope (declaredExceptions resolver signature) tag).isNone &&
    namesUnchecked resolver signature tag

/-- The report on a tag tells the tag. -/
theorem eq_of_unused_eq {first second : Tag} (inComment : first ∈ comment.tags)
    (inComment' : second ∈ comment.tags) (same : first.unused = second.unused) :
    first = second :=
  Comment.eq_of_position_eq inComment inComment' (congrArg Diagnostic.position same)

variable (resolver signature comment) in
/-- The finding is not the report on an unchecked exception that is not declared. -/
def staysReported (finding : Diagnostic) : Bool :=
  finding ∉ (undeclaredUnchecked resolver signature comment).map Tag.unused

theorem staysReported_unused_iff {tag : Tag} (inComment : tag ∈ comment.tags) :
    staysReported resolver signature comment tag.unused = true ↔
      tag ∉ undeclaredUnchecked resolver signature comment := by
  rw [staysReported, decide_eq_true_eq, not_iff_not]
  constructor
  · intro reported
    obtain ⟨other, undeclared, same⟩ := List.mem_map.mp reported
    rwa [← eq_of_unused_eq (List.mem_filter.mp undeclared).1 inComment same]
  · exact List.mem_map_of_mem

/-- A group without reports on tags for exceptions stays as it is. -/
theorem filter_staysReported_of_follows {kinds : List Tag.Kind} {group : List Diagnostic}
    (follows : FollowsTags comment kinds Tag.unused group) (others : .throws ∉ kinds) :
    group.filter (staysReported resolver signature comment) = group := by
  obtain ⟨tags, sub, kind, rfl⟩ := follows.reports
  rw [List.filter_eq_self]
  intro finding member
  obtain ⟨tag, inTags, rfl⟩ := List.mem_map.mp member
  have notThrows : tag.kind ≠ .throws := by
    intro throws
    exact others (throws ▸ kind tag inTags)
  rw [staysReported_unused_iff (sub.subset inTags)]
  simp [undeclaredUnchecked, notThrows]

theorem filter_staysReported_of_kind {group : List Diagnostic}
    (others : ∀ finding ∈ group, finding.kind ≠ .unusedTag) :
    group.filter (staysReported resolver signature comment) = group := by
  rw [List.filter_eq_self]
  intro finding member
  rw [staysReported, decide_eq_true_eq]
  intro reported
  exact others finding member (kind_of_mem_map_unused reported)

theorem unusedThrows_tolerating (settings : Settings) (resolver : Resolver α)
    (signature : Signature) (comment : Comment) :
    unusedThrows resolver (settings.tolerating true) signature comment =
      (unusedThrows resolver (settings.tolerating false) signature comment).filter
        (staysReported resolver signature comment) := by
  have tolerated (undeclared : Bool) (tag : Tag) :
      isTolerated resolver (settings.tolerating undeclared) signature tag =
        (undeclared && namesUnchecked resolver signature tag) := rfl
  simp only [unusedThrows, tolerated, Bool.false_and, Bool.not_false, List.filter_true,
    List.filter_map, Bool.true_and]
  congr 1
  refine List.filter_congr fun tag left => ?_
  rw [settledThrows, settleThrows_left] at left
  obtain ⟨isThrows, unmatched⟩ := List.mem_filter.mp left
  obtain ⟨inComment, kind⟩ := List.mem_filter.mp isThrows
  have undeclared : tag ∈ undeclaredUnchecked resolver signature comment ↔
      namesUnchecked resolver signature tag = true := by
    simp [undeclaredUnchecked, inComment, of_decide_eq_true kind, unmatched]
  rw [Bool.eq_iff_iff, Function.comp_apply, staysReported_unused_iff inComment, undeclared]
  simp

theorem findings_tolerating (settings : Settings) (resolver : Resolver α) (signature : Signature)
    (comment : Comment) :
    findings resolver (settings.tolerating true) signature comment =
      (findings resolver (settings.tolerating false) signature comment).filter
        (staysReported resolver signature comment) := by
  have missing : (missingParams (settings.tolerating false) signature comment).filter
      (staysReported resolver signature comment) =
        missingParams (settings.tolerating true) signature comment :=
    filter_staysReported_of_kind fun _ member => by simp [kind_of_mem_missingParams member]
  have mixed : (mixedStyle (settings.tolerating false) signature comment).filter
      (staysReported resolver signature comment) =
        mixedStyle (settings.tolerating true) signature comment :=
    filter_staysReported_of_kind fun _ member => by simp [kind_of_mem_mixedStyle member]
  have params : (unusedParams (settings.tolerating false) signature comment).filter
      (staysReported resolver signature comment) =
        unusedParams (settings.tolerating true) signature comment :=
    filter_staysReported_of_follows (unusedParams_follows ..) (by decide)
  have result : (resultReport (settings.tolerating false) signature comment).filter
      (staysReported resolver signature comment) =
        resultReport (settings.tolerating true) signature comment :=
    filter_staysReported_of_kind fun _ member => by
      rcases kind_of_mem_resultReport member with kind | kind <;> simp [kind]
  have undocumented : (missingThrows resolver (settings.tolerating false) signature comment).filter
      (staysReported resolver signature comment) =
        missingThrows resolver (settings.tolerating true) signature comment :=
    filter_staysReported_of_kind fun _ member => by simp [kind_of_mem_missingThrows member]
  have stray : (strayTags signature comment).filter (staysReported resolver signature comment) =
      strayTags signature comment :=
    filter_staysReported_of_follows (strayTags_follows signature comment) (by decide)
  simp only [findings, List.filter_append, missing, mixed, params, result, undocumented, stray,
    unusedThrows_tolerating]

/-- With tolerance a check finds what it finds without, but for the reports on unchecked exceptions
that are not declared. -/
theorem verify_tolerating (settings : Settings) (resolver : Resolver α) (signature : Signature)
    (comment : Comment) :
    verify (settings.tolerating true) resolver signature (some comment) =
      (verify (settings.tolerating false) resolver signature (some comment)).filter
        (staysReported resolver signature comment) := by
  have scope : (settings.tolerating true).inScope = (settings.tolerating false).inScope := rfl
  unfold verify
  rw [scope]
  split
  · rfl
  · dsimp only
    cases loneInheritDoc? comment.tags with
    | none => exact findings_tolerating settings resolver signature comment
    | some tag =>
        refine (filter_staysReported_of_kind ?_).symm
        intro finding member
        dsimp only at member
        split at member
        · cases member
        · obtain rfl := List.mem_singleton.mp member
          simp

/-- Without tolerance every unchecked exception that is not declared is reported. -/
theorem unused_mem_verify_of_undeclaredUnchecked
    (inScope : settings.inScope signature.visibility = true) {tag : Tag}
    (undeclared : tag ∈ undeclaredUnchecked resolver signature comment) :
    tag.unused ∈ verify (settings.tolerating false) resolver signature (some comment) := by
  obtain ⟨inComment, test⟩ := List.mem_filter.mp undeclared
  obtain ⟨⟨kind, unmatched⟩, -⟩ :
      (tag.kind = .throws ∧
        (tagMatch? resolver signature.scope (declaredExceptions resolver signature) tag).isNone =
          true) ∧ namesUnchecked resolver signature tag = true := by
    simpa only [Bool.and_eq_true, decide_eq_true_eq] using test
  have notLone (lone : Tag) (single : comment.tags = [lone]) : lone.kind ≠ .inheritDoc := by
    rw [single, List.mem_singleton] at inComment
    rw [← inComment, kind]
    decide
  have left : tag ∈ (settledThrows resolver signature comment).1 := by
    rw [settledThrows, settleThrows_left, throwsTags]
    simp [inComment, kind, unmatched]
  have reported :
      tag.unused ∈ unusedThrows resolver (settings.tolerating false) signature comment :=
    List.mem_map_of_mem (List.mem_filter.mpr ⟨left, rfl⟩)
  have checked : (settings.tolerating false).inScope signature.visibility = true := inScope
  rw [verify_eq_findings checked notLone]
  simp [findings, reported]

end Undeclared

/-- Leniency takes findings away and does nothing else. What is missing is forgiven by its kind, all
at once and whatever else is found; and unchecked exceptions that are not declared are tolerated tag
by tag, each of which is reported by a check that does not tolerate them. -/
theorem leniency_only_filters_findings (settings : Settings) (resolver : Resolver α)
    (signature : Signature) (comment : Option Comment) :
    (∀ leniency, verify (settings.lenient leniency) resolver signature comment =
      (verify (settings.lenient {}) resolver signature comment).filter
        (!leniency.forgives ·.kind)) ∧
    verify (settings.tolerating true) resolver signature comment =
      (verify (settings.tolerating false) resolver signature comment).filter
        (· ∉ (comment.elim [] (undeclaredUnchecked resolver signature)).map Tag.unused) ∧
    (settings.inScope signature.visibility = true →
      ∀ tag ∈ comment.elim [] (undeclaredUnchecked resolver signature),
        tag.unused ∈ verify (settings.tolerating false) resolver signature comment) := by
  refine ⟨fun leniency => verify_lenient settings leniency resolver signature comment, ?_⟩
  cases comment with
  | none => exact ⟨(List.filter_eq_self.mpr (by simp)).symm, by simp⟩
  | some comment =>
      exact ⟨verify_tolerating settings resolver signature comment,
        fun inScope tag undeclared => unused_mem_verify_of_undeclaredUnchecked inScope undeclared⟩

/-- A lenient check is left with the reports on tags; a tolerant one does without the report on the
unchecked exception. -/
theorem leniency_on_pollComment :
    Settings.inScope {} pollSignature.visibility = true ∧
      verify (Settings.lenient {} ⟨true, true, true, true⟩) (ClassTable.withStandard []).resolver
          pollSignature (some pollComment) =
        [⟨.unusedTag, ⟨5, 4⟩, ["@param", "q"]⟩, ⟨.duplicateTag, ⟨7, 4⟩, ["@return"]⟩,
         ⟨.unusedTag, ⟨2, 4⟩, ["@throws", "IllegalStateException"]⟩,
         ⟨.unusedTag, ⟨3, 4⟩, ["@throws"]⟩] ∧
      verify (Settings.tolerating {} true) (ClassTable.withStandard []).resolver pollSignature
          (some pollComment) =
        [⟨.expectedParam, ⟨12, 5⟩, ["@param", "b"]⟩, ⟨.expectedParam, ⟨12, 20⟩, ["@param", "c"]⟩,
         ⟨.unusedTag, ⟨5, 4⟩, ["@param", "q"]⟩, ⟨.duplicateTag, ⟨7, 4⟩, ["@return"]⟩,
         ⟨.expectedThrows, ⟨13, 16⟩, ["@throws", "java.io.IOException"]⟩,
         ⟨.unusedTag, ⟨3, 4⟩, ["@throws"]⟩] := by
  obtain ⟨lenient, tolerant, -⟩ := leniency_only_filters_findings {}
    (ClassTable.withStandard []).resolver pollSignature (some pollComment)
  refine ⟨rfl, ?_, ?_⟩
  · rw [lenient]
    decide +kernel
  · rw [tolerant]
    decide +kernel

end Verification

end JavadocAudit

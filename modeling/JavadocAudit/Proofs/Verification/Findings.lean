import JavadocAudit.Verification

/-!
# When a comment is looked at

A comment whose only tag takes over inherited text is not looked at any further. The comment of any
other declaration that is checked gives the findings of all groups, one group after the other. The
findings of a group are of one kind, but for those on a result, which are of one of two. Nothing is
read in a comment but its tags and its words.
-/

namespace JavadocAudit.Verification

variable {α : Type} {settings : Settings} {resolver : Resolver α} {signature : Signature}
variable {comment : Comment}

theorem loneInheritDoc?_eq_some_iff {tags : List Tag} {tag : Tag} :
    loneInheritDoc? tags = some tag ↔ tags = [tag] ∧ tag.kind = .inheritDoc := by
  constructor
  · intro h
    unfold loneInheritDoc? at h
    split at h
    · split at h
      · next kind =>
          cases h
          exact ⟨rfl, kind⟩
      · cases h
    · cases h
  · rintro ⟨rfl, kind⟩
    simp [loneInheritDoc?, kind]

theorem loneInheritDoc?_eq_none_iff {tags : List Tag} :
    loneInheritDoc? tags = none ↔ ∀ tag, tags = [tag] → tag.kind ≠ .inheritDoc := by
  simp only [Option.eq_none_iff_forall_ne_some, ne_eq, loneInheritDoc?_eq_some_iff, not_and]

/-- Whether a comment has a lone marker can be told from the number of its tags. -/
theorem isSome_loneInheritDoc? (tags : List Tag) :
    (loneInheritDoc? tags).isSome =
      (tags.length == 1 && tags.any (·.kind = .inheritDoc)) := by
  rcases tags with _ | ⟨tag, _ | ⟨second, others⟩⟩
  · rfl
  · by_cases kind : tag.kind = .inheritDoc <;> simp [loneInheritDoc?, kind]
  · simp [loneInheritDoc?]

theorem verify_eq_findings (inScope : settings.inScope signature.visibility = true)
    (notLone : ∀ tag, comment.tags = [tag] → tag.kind ≠ .inheritDoc) :
    verify settings resolver signature (some comment) =
      findings resolver settings signature comment := by
  simp [verify, inScope, loneInheritDoc?_eq_none_iff.mpr notLone]

/-- A comment without a marker is looked at. -/
theorem verify_eq_findings_of_unmarked (inScope : settings.inScope signature.visibility = true)
    (unmarked : isInherited comment = false) :
    verify settings resolver signature (some comment) =
      findings resolver settings signature comment := by
  refine verify_eq_findings inScope fun tag single kind => ?_
  simp [isInherited, single, kind] at unmarked

section Kinds

variable {finding : Diagnostic}

/-- Where a finding comes from: there is no comment, or the comment is a lone marker, or it is
looked at. -/
theorem exists_origin_of_mem_verify {given : Option Comment}
    (h : finding ∈ verify settings resolver signature given) :
    settings.inScope signature.visibility = true ∧
      (given = none ∧ finding = ⟨.missingJavadoc, signature.position, []⟩ ∨
        ∃ comment, given = some comment ∧
          ((∃ tag, loneInheritDoc? comment.tags = some tag ∧ signature.mayInheritDoc = false ∧
              finding = ⟨.invalidInheritDoc, tag.position, []⟩) ∨
            finding ∈ findings resolver settings signature comment)) := by
  unfold verify at h
  split at h
  · cases h
  · next inScope =>
      refine ⟨by simpa using inScope, ?_⟩
      cases given with
      | none =>
          dsimp only at h
          split at h
          · cases h
          · exact .inl ⟨rfl, List.mem_singleton.mp h⟩
      | some comment =>
          refine .inr ⟨comment, rfl, ?_⟩
          dsimp only at h
          split at h
          · next tag lone =>
              split at h
              · cases h
              · next nothing =>
                  exact .inl ⟨tag, lone, by simpa using nothing, List.mem_singleton.mp h⟩
          · exact .inr h

/-- A finding on a comment is that on a lone marker, or belongs to a group. -/
theorem mem_verify_cases (h : finding ∈ verify settings resolver signature (some comment)) :
    finding.kind = .invalidInheritDoc ∨
      finding ∈ findings resolver settings signature comment := by
  obtain ⟨-, ⟨⟨⟩, -⟩ | ⟨_, ⟨⟩, ⟨tag, -, -, rfl⟩ | inFindings⟩⟩ := exists_origin_of_mem_verify h
  · exact .inl rfl
  · exact .inr inFindings

theorem kind_of_mem_missingParams (h : finding ∈ missingParams settings signature comment) :
    finding.kind = .expectedParam := by
  unfold missingParams at h
  split at h
  · cases h
  · obtain ⟨settled, -, rfl⟩ := List.mem_map.mp h
    rfl

theorem kind_of_mem_mixedStyle (h : finding ∈ mixedStyle settings signature comment) :
    finding.kind = .mixedStyle := by
  simp only [mixedStyle] at h
  split at h
  · obtain rfl := List.mem_singleton.mp h
    rfl
  · cases h

theorem kind_of_mem_map_unused {tags : List Tag} (h : finding ∈ tags.map Tag.unused) :
    finding.kind = .unusedTag := by
  obtain ⟨tag, -, rfl⟩ := List.mem_map.mp h
  rfl

theorem kind_of_mem_resultReport (h : finding ∈ resultReport settings signature comment) :
    finding.kind = .duplicateTag ∨ finding.kind = .expectedReturn := by
  unfold resultReport at h
  split at h
  · cases h
  · split at h
    · obtain ⟨tag, -, rfl⟩ := List.mem_map.mp h
      exact .inl rfl
    · split at h
      · cases h
      · obtain rfl := List.mem_singleton.mp h
        exact .inr rfl

theorem kind_of_mem_missingThrows
    (h : finding ∈ missingThrows resolver settings signature comment) :
    finding.kind = .expectedThrows := by
  unfold missingThrows at h
  split at h
  · cases h
  · obtain ⟨declared, -, rfl⟩ := List.mem_map.mp h
    rfl

/-- What is said to be missing of the exceptions is said in one place. -/
theorem mem_missingThrows_of_kind (h : finding ∈ findings resolver settings signature comment)
    (kind : finding.kind = .expectedThrows) :
    finding ∈ missingThrows resolver settings signature comment := by
  simp only [findings, List.mem_append] at h
  rcases h with (((((missing | mixed) | params) | result) | throws) | undocumented) | stray
  · simp [kind_of_mem_missingParams missing] at kind
  · simp [kind_of_mem_mixedStyle mixed] at kind
  · simp [kind_of_mem_map_unused params] at kind
  · rcases kind_of_mem_resultReport result with other | other <;> simp [other] at kind
  · simp [kind_of_mem_map_unused throws] at kind
  · exact undocumented
  · simp [kind_of_mem_map_unused stray] at kind

/-- A marker is not looked at along with the other tags. -/
theorem kind_ne_invalidInheritDoc_of_mem_findings
    (h : finding ∈ findings resolver settings signature comment) :
    finding.kind ≠ .invalidInheritDoc := by
  simp only [findings, List.mem_append] at h
  rcases h with (((((missing | mixed) | params) | result) | throws) | undocumented) | stray
  · simp [kind_of_mem_missingParams missing]
  · simp [kind_of_mem_mixedStyle mixed]
  · simp [kind_of_mem_map_unused params]
  · rcases kind_of_mem_resultReport result with kind | kind <;> simp [kind]
  · simp [kind_of_mem_map_unused throws]
  · simp [kind_of_mem_missingThrows undocumented]
  · simp [kind_of_mem_map_unused stray]

section Filter

theorem filter_of_kind {kind : Diagnostic.Kind} (found : List Diagnostic)
    (ofKind : ∀ finding ∈ found, finding.kind = kind) (keep : Diagnostic.Kind → Bool) :
    found.filter (fun finding => keep finding.kind) = if keep kind then found else [] := by
  split
  · next kept => exact List.filter_eq_self.mpr fun finding member => ofKind finding member ▸ kept
  · next dropped =>
      exact List.filter_eq_nil_iff.mpr fun finding member => ofKind finding member ▸ dropped

/-- The report on a result is of its own two kinds. -/
theorem filter_resultReport_eq_nil (settings : Settings) (signature : Signature) (comment : Comment)
    {kind : Diagnostic.Kind} (notDuplicate : kind ≠ .duplicateTag)
    (notExpected : kind ≠ .expectedReturn) :
    (resultReport settings signature comment).filter (·.kind = kind) = [] := by
  rw [List.filter_eq_nil_iff]
  intro finding member
  rcases kind_of_mem_resultReport member with own | own
  · simpa [own] using notDuplicate.symm
  · simpa [own] using notExpected.symm

/-- Findings of some kinds are all those of some groups, and one part of the report on a result. -/
theorem filter_findings (resolver : Resolver α) (settings : Settings) (signature : Signature)
    (comment : Comment) (keep : Diagnostic.Kind → Bool) :
    (findings resolver settings signature comment).filter (fun finding => keep finding.kind) =
      (if keep .expectedParam then missingParams settings signature comment else [])
        ++ (if keep .mixedStyle then mixedStyle settings signature comment else [])
        ++ (if keep .unusedTag then unusedParams settings signature comment else [])
        ++ (resultReport settings signature comment).filter (fun finding => keep finding.kind)
        ++ (if keep .unusedTag then unusedThrows resolver settings signature comment else [])
        ++ (if keep .expectedThrows then missingThrows resolver settings signature comment else [])
        ++ (if keep .unusedTag then strayTags signature comment else []) := by
  simp only [findings, List.filter_append]
  rw [filter_of_kind (missingParams ..) (fun _ => kind_of_mem_missingParams),
    filter_of_kind (mixedStyle ..) (fun _ => kind_of_mem_mixedStyle),
    filter_of_kind (unusedParams ..) (fun _ => kind_of_mem_map_unused),
    filter_of_kind (unusedThrows ..) (fun _ => kind_of_mem_map_unused),
    filter_of_kind (missingThrows ..) (fun _ => kind_of_mem_missingThrows),
    filter_of_kind (strayTags ..) (fun _ => kind_of_mem_map_unused)]

theorem filter_expectedParam_findings (resolver : Resolver α) (settings : Settings)
    (signature : Signature) (comment : Comment) :
    (findings resolver settings signature comment).filter (·.kind = .expectedParam) =
      missingParams settings signature comment := by
  rw [filter_findings _ _ _ _ (· = .expectedParam),
    filter_resultReport_eq_nil _ _ _ (by decide) (by decide)]
  simp

theorem filter_mixedStyle_findings (resolver : Resolver α) (settings : Settings)
    (signature : Signature) (comment : Comment) :
    (findings resolver settings signature comment).filter (·.kind = .mixedStyle) =
      mixedStyle settings signature comment := by
  rw [filter_findings _ _ _ _ (· = .mixedStyle),
    filter_resultReport_eq_nil _ _ _ (by decide) (by decide)]
  simp

theorem filter_expectedThrows_findings (resolver : Resolver α) (settings : Settings)
    (signature : Signature) (comment : Comment) :
    (findings resolver settings signature comment).filter (·.kind = .expectedThrows) =
      missingThrows resolver settings signature comment := by
  rw [filter_findings _ _ _ _ (· = .expectedThrows),
    filter_resultReport_eq_nil _ _ _ (by decide) (by decide)]
  simp

end Filter

end Kinds

section Reading

variable {comment' : Comment}

/-- The order of the words does not matter. -/
theorem mentions_congr (words : comment.words.Perm comment'.words) :
    comment.mentions = comment'.mentions := by
  funext parameter
  exact words.any_eq

theorem mentionsReturn_congr (words : comment.words.Perm comment'.words) :
    comment.mentionsReturn = comment'.mentionsReturn :=
  words.any_eq

/-- Of running text, the check of parameters sees only which of them are mentioned. -/
theorem isNarrated_congr (settings : Settings) (signature : Signature)
    (mentions : comment.mentions = comment'.mentions) :
    isNarrated settings signature comment = isNarrated settings signature comment' := by
  funext parameter
  simp only [isNarrated, Comment.mentioned, mentions]

/-- What the groups of findings read in a comment. -/
theorem findings_congr (resolver : Resolver α) (settings : Settings) (signature : Signature)
    (start : comment.start = comment'.start)
    (inherited : isInherited comment = isInherited comment')
    (params : settledParams settings signature comment = settledParams settings signature comment')
    (result : resultReport settings signature comment = resultReport settings signature comment')
    (throws : throwsTags comment = throwsTags comment')
    (stray : strayTags signature comment = strayTags signature comment') :
    findings resolver settings signature comment =
      findings resolver settings signature comment' := by
  simp only [findings, missingParams, mixedStyle, unusedParams, unusedThrows, missingThrows,
    settledThrows, start, inherited, params, result, throws, stray]

/-- What is found about a comment depends on its start, its tags and its words. -/
theorem verify_congr_comment (settings : Settings) (resolver : Resolver α) (signature : Signature)
    (start : comment.start = comment'.start) (tags : comment.tags = comment'.tags)
    (words : comment.words = comment'.words) :
    verify settings resolver signature (some comment) =
      verify settings resolver signature (some comment') := by
  have narrated := isNarrated_congr settings signature (mentions_congr (.of_eq words))
  have mentionsReturn := mentionsReturn_congr (.of_eq words)
  have inherited : isInherited comment = isInherited comment' := by
    rw [isInherited, tags, isInherited]
  have params : settledParams settings signature comment =
      settledParams settings signature comment' := by
    rw [settledParams, narrated, paramTags, tags, settledParams, paramTags]
  have result : resultReport settings signature comment =
      resultReport settings signature comment' := by
    rw [resultReport, resultTags, tags, inherited, mentionsReturn, resultReport, resultTags]
  have throws : throwsTags comment = throwsTags comment' := by
    rw [throwsTags, tags, throwsTags]
  have stray : strayTags signature comment = strayTags signature comment' := by
    rw [strayTags, tags, strayTags]
  unfold verify
  dsimp only
  rw [tags, findings_congr resolver settings signature start inherited params result throws stray]

end Reading

end JavadocAudit.Verification

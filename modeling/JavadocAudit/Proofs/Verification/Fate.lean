import JavadocAudit.Proofs.Tag.Selection
import JavadocAudit.Proofs.Verification.Findings
import JavadocAudit.Proofs.Verification.Params
import JavadocAudit.Proofs.Verification.Throws

/-!
# What becomes of each tag

A tag is either accounted for, and then nothing is said about it, or it is reported once, where it
stands. Which of the two depends on the tag and on the tags before it: the parameters of its name
may be used up, the result may have its tag already, and the exception it matches depends on what
has been matched so far. Four groups of findings report on tags; each of them is a selection of the
tags of the comment, and no two of them select tags of the same kind.
-/

namespace JavadocAudit.Verification

variable {α : Type} (settings : Settings) (resolver : Resolver α) (signature : Signature)

/-- How many of the tags before are for the same parameter name. -/
def countBefore (earlier : List Tag) (tag : Tag) : Nat :=
  earlier.countP fun other => other.kind = .param && other.argument = tag.argument

/-- The declared exceptions as the tags before have left them. -/
def declaredAfter (earlier : List Tag) : List (Declared α) :=
  (settleThrows resolver signature.scope (earlier.filter (·.kind = .throws))
    (declaredExceptions resolver signature)).2

/-- Why nothing is said about a tag, given the tags before it. -/
inductive Accounted (earlier : List Tag) (tag : Tag) : Prop where
  /-- The n-th tag for a name is matched to the n-th parameter of that name. -/
  | described (parameter : Parameter) (kind : tag.kind = .param)
      (place : ((documentedParams settings signature).filter
        (tag.describes ·))[countBefore earlier tag]? = some parameter)
  /-- It is for a parameter that needs no description. -/
  | exempt (kind : tag.kind = .param) (covered : tag.argument.any settings.isUnusedParam = true)
  /-- It is the first tag for a result that exists. -/
  | result (kind : tag.kind = .result) (value : signature.returnsValue = true)
      (first : ∀ other ∈ earlier, other.kind ≠ .result)
  /-- It matches a declared exception. -/
  | matched (place : Nat) (kind : tag.kind = .throws)
      (found : tagMatch? resolver signature.scope (declaredAfter resolver signature earlier) tag =
        some place)
  /-- It is for an unchecked exception that need not be declared. -/
  | tolerated (kind : tag.kind = .throws)
      (unchecked : isTolerated resolver settings signature tag = true)
  /-- It is of no concern to the check. -/
  | free (kind : tag.kind = .other ∨ tag.kind = .inheritDoc)

/-- The report on a tag that is not accounted for: a further tag for a result is a duplicate, and
any other tag is unused. -/
def tagReport (tag : Tag) : Diagnostic :=
  if tag.kind = .result ∧ signature.returnsValue = true then
    ⟨.duplicateTag, tag.position, ["@return"]⟩
  else tag.unused

def isTagReport (finding : Diagnostic) : Bool :=
  finding.kind = .unusedTag || finding.kind = .duplicateTag

def tagReportsAt (position : Position) (findings : List Diagnostic) : List Diagnostic :=
  findings.filter fun finding => isTagReport finding && finding.position = position

section Tests

/-- A tag for a parameter that needs a description. -/
def namesParam (tag : Tag) : Bool :=
  tag.kind = .param && !tag.argument.any settings.isUnusedParam

/-- A tag that finds the parameters of its name used up. -/
def isSurplusParam (earlier : List Tag) (tag : Tag) : Bool :=
  namesParam settings tag &&
    (documentedParams settings signature).countP (tag.describes ·) ≤ countBefore earlier tag

/-- A tag for a result that has one already. -/
def isFurtherResult (earlier : List Tag) (tag : Tag) : Bool :=
  tag.kind = .result && earlier.any (·.kind = .result)

def isUnmatched (earlier : List Tag) (tag : Tag) : Bool :=
  tag.kind = .throws &&
    (tagMatch? resolver signature.scope (declaredAfter resolver signature earlier) tag).isNone

/-- A tag that names nothing, or is for a result that there is not. -/
def isStray (tag : Tag) : Bool :=
  tag.kind = .nameless || (tag.kind = .result && !signature.returnsValue)

end Tests

section Params

variable {settings signature}

/-- Taking a parameter out lowers the count for its own name and for no other. -/
theorem countP_describes_eraseP {params : List Parameter} {tag : Tag}
    (h : params.any (tag.describes ·) = true) (other : Tag) :
    (params.eraseP (tag.describes ·)).countP (other.describes ·) +
        (if tag.argument = other.argument then 1 else 0) =
      params.countP (other.describes ·) := by
  obtain ⟨p, member, describes⟩ := List.any_eq_true.mp h
  obtain ⟨taken, front, back, -, takes, split, erased⟩ :=
    List.exists_of_eraseP member describes
  rw [erased, split, List.countP_append, List.countP_append, List.countP_cons]
  rw [describes_iff] at takes
  have same : other.describes taken = true ↔ tag.argument = other.argument := by
    rw [describes_iff, takes, eq_comm]
  by_cases equal : tag.argument = other.argument
  · rw [if_pos equal, if_pos (same.mpr equal)]
    omega
  · rw [if_neg equal, if_neg (fun h => equal (same.mp h))]
    omega

theorem countBefore_concat (earlier : List Tag) (first tag : Tag) :
    countBefore (earlier ++ [first]) tag =
      countBefore earlier tag +
        if first.kind = .param ∧ first.argument = tag.argument then 1 else 0 := by
  simp only [countBefore, List.countP_append, List.countP_singleton, Bool.and_eq_true,
    decide_eq_true_eq]

theorem namesParam_iff {tag : Tag} :
    namesParam settings tag = true ↔
      tag.kind = .param ∧ tag.argument.any settings.isUnusedParam = false := by
  simp [namesParam]

variable (settings signature) in
/-- Of each name, as many parameters are still there as the tags before have not taken. -/
def IsPending (earlier : List Tag) (pending : List Parameter) : Prop :=
  ∀ tag : Tag, tag.argument.any settings.isUnusedParam = false →
    pending.countP (tag.describes ·) =
      (documentedParams settings signature).countP (tag.describes ·) - countBefore earlier tag

namespace IsPending

variable {earlier : List Tag} {pending : List Parameter} {tag : Tag}

theorem start : IsPending settings signature [] (documentedParams settings signature) := by
  intro tag _
  simp [countBefore]

/-- A tag takes a parameter exactly if it is not one too many. -/
theorem any_describes (pends : IsPending settings signature earlier pending)
    (named : namesParam settings tag = true) :
    pending.any (tag.describes ·) = !isSurplusParam settings signature earlier tag := by
  have left := pends tag (namesParam_iff.mp named).2
  have some_left : pending.any (tag.describes ·) = true ↔ 0 < pending.countP (tag.describes ·) := by
    rw [List.any_eq_true, List.countP_pos_iff]
  rw [Bool.eq_iff_iff, some_left]
  simp only [isSurplusParam, named, Bool.true_and, Bool.not_eq_true', decide_eq_false_iff_not]
  omega

theorem take (pends : IsPending settings signature earlier pending)
    (named : namesParam settings tag = true) (described : pending.any (tag.describes ·) = true) :
    IsPending settings signature (earlier ++ [tag]) (pending.eraseP (tag.describes ·)) := by
  intro other h
  have taken := countP_describes_eraseP described other
  have before := pends other h
  rw [countBefore_concat]
  by_cases equal : tag.argument = other.argument
  · rw [if_pos equal] at taken
    rw [if_pos ⟨(namesParam_iff.mp named).1, equal⟩]
    omega
  · rw [if_neg equal] at taken
    rw [if_neg (fun both => equal both.2)]
    omega

theorem pass_surplus (pends : IsPending settings signature earlier pending)
    (surplus : pending.any (tag.describes ·) = false) :
    IsPending settings signature (earlier ++ [tag]) pending := by
  intro other h
  have before := pends other h
  rw [countBefore_concat]
  by_cases equal : tag.argument = other.argument
  · have none_left : pending.countP (other.describes ·) = 0 := by
      simpa [Tag.describes, equal, List.countP_eq_zero] using surplus
    omega
  · rw [if_neg (fun both => equal both.2)]
    omega

theorem pass_other (pends : IsPending settings signature earlier pending)
    (unnamed : namesParam settings tag = false) :
    IsPending settings signature (earlier ++ [tag]) pending := by
  intro other h
  have apart : ¬ (tag.kind = .param ∧ tag.argument = other.argument) := by
    rintro ⟨kind, equal⟩
    simp [namesParam, kind, equal, h] at unnamed
  rw [countBefore_concat, if_neg apart]
  exact pends other h

end IsPending

/-- The tags that are left over are those that find the parameters of their name used up. The
induction is along the comment. -/
theorem settleParams_left_eq_select {isNarrated : Parameter → Bool} {earlier tags : List Tag}
    {pending : List Parameter} (pends : IsPending settings signature earlier pending) :
    (settleParams isNarrated pending (tags.filter (namesParam settings))).2 =
      Tag.select (isSurplusParam settings signature) earlier tags := by
  induction tags generalizing earlier pending with
  | nil => exact settleParams_left_nil
  | cons tag tags ih =>
      by_cases named : namesParam settings tag = true
      · rw [List.filter_cons_of_pos named]
        have fate := pends.any_describes named
        by_cases described : pending.any (tag.describes ·) = true
        · rw [settleParams_left_cons_of_describes described,
            Tag.select_cons_of_neg (by simpa [described] using fate)]
          exact ih (pends.take named described)
        · have surplus : pending.any (tag.describes ·) = false := by simpa using described
          rw [settleParams_left_cons_of_not_describes surplus,
            Tag.select_cons_of_pos (by simpa [surplus] using fate)]
          exact congrArg _ (ih (pends.pass_surplus surplus))
      · have unnamed : namesParam settings tag = false := by simpa using named
        rw [List.filter_cons_of_neg named,
          Tag.select_cons_of_neg (by simp [isSurplusParam, unnamed])]
        exact ih (pends.pass_other unnamed)

theorem unusedParams_eq_select (comment : Comment) :
    unusedParams settings signature comment =
      (Tag.select (isSurplusParam settings signature) [] comment.tags).map Tag.unused :=
  congrArg _ (settleParams_left_eq_select .start)

end Params

section Result

variable {settings signature}

/-- All tags for a result but the first are those that have one before them. -/
theorem tail_resultTags_eq_select (earlier tags : List Tag) :
    (if earlier.any (·.kind = .result) then tags.filter (·.kind = .result)
      else (tags.filter (·.kind = .result)).tail) =
      Tag.select isFurtherResult earlier tags := by
  induction tags generalizing earlier with
  | nil => simp [Tag.select]
  | cons tag tags ih =>
      rw [Tag.select, ← ih]
      by_cases kind : tag.kind = .result <;>
        by_cases seen : earlier.any (·.kind = .result) = true <;> simp_all [isFurtherResult]

theorem resultReport_eq_select (comment : Comment) :
    (resultReport settings signature comment).filter isTagReport =
      if signature.returnsValue then
        (Tag.select isFurtherResult [] comment.tags).map
          fun tag => ⟨.duplicateTag, tag.position, ["@return"]⟩
      else [] := by
  rw [← tail_resultTags_eq_select]
  change _ = if signature.returnsValue then (resultTags comment).tail.map _ else []
  unfold resultReport
  cases signature.returnsValue with
  | false => rfl
  | true =>
      cases resultTags comment with
      | nil =>
          have expected (forgiven : Bool) :
              (if forgiven then [] else [⟨.expectedReturn, signature.position, []⟩]
                : List Diagnostic).filter isTagReport = [] := by
            cases forgiven <;> rfl
          exact expected _
      | cons first duplicates => simp [isTagReport]

theorem strayTags_eq_select (comment : Comment) :
    strayTags signature comment =
      (Tag.select (fun _ => isStray signature) [] comment.tags).map Tag.unused := by
  rw [Tag.select_const]
  rfl

end Result

section Throws

variable {settings resolver signature}

theorem declaredAfter_concat_of_kind (resolver : Resolver α) (signature : Signature)
    (earlier : List Tag) {tag : Tag} (kind : tag.kind = .throws) :
    declaredAfter resolver signature (earlier ++ [tag]) =
      (settleThrows resolver signature.scope [tag]
        (declaredAfter resolver signature earlier)).2 := by
  simp [declaredAfter, kind, settleThrows_append]

theorem declaredAfter_concat_of_kind_ne {earlier : List Tag} {tag : Tag}
    (kind : tag.kind ≠ .throws) :
    declaredAfter resolver signature (earlier ++ [tag]) =
      declaredAfter resolver signature earlier := by
  simp [declaredAfter, kind]

/-- The tags that are left over are those that match none of the exceptions as they find them. -/
theorem settleThrows_left_eq_select (earlier tags : List Tag) :
    (settleThrows resolver signature.scope (tags.filter (·.kind = .throws))
        (declaredAfter resolver signature earlier)).1 =
      Tag.select (isUnmatched resolver signature) earlier tags := by
  induction tags generalizing earlier with
  | nil => rfl
  | cons tag tags ih =>
      by_cases kind : tag.kind = .throws
      · rw [List.filter_cons_of_pos (by simpa using kind)]
        have next := declaredAfter_concat_of_kind resolver signature earlier kind
        cases found : tagMatch? resolver signature.scope (declaredAfter resolver signature earlier)
            tag with
        | some place =>
            rw [settleThrows_cons_of_match found, settleThrows_nil] at next
            rw [settleThrows_cons_of_match found,
              Tag.select_cons_of_neg (by simp [isUnmatched, found]), ← ih, next]
        | none =>
            rw [settleThrows_cons_of_no_match found, settleThrows_nil] at next
            rw [settleThrows_cons_of_no_match found,
              Tag.select_cons_of_pos (by simp [isUnmatched, found, kind]), ← ih, next]
      · rw [List.filter_cons_of_neg (by simpa using kind),
          Tag.select_cons_of_neg (by simp [isUnmatched, kind]), ← ih,
          declaredAfter_concat_of_kind_ne kind]

theorem unusedThrows_eq_select (comment : Comment) :
    unusedThrows resolver settings signature comment =
      (Tag.select (fun earlier tag => isUnmatched resolver signature earlier tag &&
        !isTolerated resolver settings signature tag) [] comment.tags).map Tag.unused := by
  rw [← Tag.filter_select, ← settleThrows_left_eq_select]
  rfl

end Throws

section Fate

variable {settings resolver signature} {comment : Comment} {earlier later : List Tag} {tag : Tag}

variable (settings resolver signature) in
def isReported (earlier : List Tag) (tag : Tag) : Bool :=
  isSurplusParam settings signature earlier tag
    || (signature.returnsValue && isFurtherResult earlier tag)
    || (isUnmatched resolver signature earlier tag && !isTolerated resolver settings signature tag)
    || isStray signature tag

theorem isReported_of_param (kind : tag.kind = .param) :
    isReported settings resolver signature earlier tag =
      (!tag.argument.any settings.isUnusedParam &&
        (documentedParams settings signature).countP (tag.describes ·) ≤
          countBefore earlier tag) := by
  simp [isReported, isSurplusParam, namesParam, isFurtherResult, isUnmatched, isStray, kind]

theorem isReported_of_result (kind : tag.kind = .result) :
    isReported settings resolver signature earlier tag =
      (!signature.returnsValue || earlier.any (·.kind = .result)) := by
  cases h : signature.returnsValue <;>
    simp [isReported, isSurplusParam, namesParam, isFurtherResult, isUnmatched, isStray, kind, h]

theorem isReported_of_throws (kind : tag.kind = .throws) :
    isReported settings resolver signature earlier tag =
      ((tagMatch? resolver signature.scope (declaredAfter resolver signature earlier) tag).isNone &&
        !isTolerated resolver settings signature tag) := by
  simp [isReported, isSurplusParam, namesParam, isFurtherResult, isUnmatched, isStray, kind]

theorem isReported_of_nameless (kind : tag.kind = .nameless) :
    isReported settings resolver signature earlier tag = true := by
  simp [isReported, isStray, kind]

theorem isReported_of_free (kind : tag.kind = .other ∨ tag.kind = .inheritDoc) :
    isReported settings resolver signature earlier tag = false := by
  rcases kind with kind | kind <;>
    simp [isReported, isSurplusParam, namesParam, isFurtherResult, isUnmatched, isStray, kind]

/-- The tags that are accounted for are those that no group reports. -/
theorem accounted_iff :
    Accounted settings resolver signature earlier tag ↔
      isReported settings resolver signature earlier tag = false := by
  constructor
  · intro accounted
    cases accounted with
    | described parameter kind place =>
        have bound := (List.getElem?_eq_some_iff.mp place).1
        rw [← List.countP_eq_length_filter] at bound
        simp [isReported_of_param kind, bound]
    | exempt kind covered => simp [isReported_of_param kind, covered]
    | result kind value first => simpa [isReported_of_result kind, value] using first
    | matched place kind found => simp [isReported_of_throws kind, found]
    | tolerated kind unchecked => simp [isReported_of_throws kind, unchecked]
    | free kind => exact isReported_of_free kind
  · intro silent
    cases kind : tag.kind with
    | param =>
        rw [isReported_of_param kind] at silent
        by_cases covered : tag.argument.any settings.isUnusedParam = true
        · exact .exempt kind covered
        · have bound : countBefore earlier tag <
              ((documentedParams settings signature).filter (tag.describes ·)).length := by
            rw [← List.countP_eq_length_filter]
            simpa [covered] using silent
          exact .described _ kind (List.getElem?_eq_getElem bound)
    | result =>
        rw [isReported_of_result kind] at silent
        obtain ⟨value, first⟩ : signature.returnsValue = true ∧
            ∀ other ∈ earlier, other.kind ≠ .result := by simpa using silent
        exact .result kind value first
    | throws =>
        rw [isReported_of_throws kind] at silent
        cases found : tagMatch? resolver signature.scope (declaredAfter resolver signature earlier)
            tag with
        | some place => exact .matched place kind found
        | none => exact .tolerated kind (by simpa [found] using silent)
    | inheritDoc => exact .free (.inr kind)
    | other => exact .free (.inl kind)
    | nameless => simp [isReported_of_nameless kind] at silent

/-- Of the findings, four groups report on tags. -/
theorem filter_isTagReport_findings :
    (findings resolver settings signature comment).filter isTagReport =
      unusedParams settings signature comment ++
      (resultReport settings signature comment).filter isTagReport ++
      unusedThrows resolver settings signature comment ++ strayTags signature comment := by
  have not_on_tags {group : List Diagnostic} {kind : Diagnostic.Kind}
      (other : kind ≠ .unusedTag ∧ kind ≠ .duplicateTag)
      (same : ∀ finding ∈ group, finding.kind = kind) : group.filter isTagReport = [] := by
    rw [List.filter_eq_nil_iff]
    intro finding member
    simp [isTagReport, same finding member, other]
  have missing : (missingParams settings signature comment).filter isTagReport = [] :=
    not_on_tags (by decide) fun _ => kind_of_mem_missingParams
  have mixed : (mixedStyle settings signature comment).filter isTagReport = [] :=
    not_on_tags (by decide) fun _ => kind_of_mem_mixedStyle
  have undocumented :
      (missingThrows resolver settings signature comment).filter isTagReport = [] :=
    not_on_tags (by decide) fun _ => kind_of_mem_missingThrows
  have unused (tags : List Tag) :
      (tags.map Tag.unused).filter isTagReport = tags.map Tag.unused := by
    simp [Tag.unused, isTagReport]
  simp only [findings, List.filter_append, missing, mixed, undocumented, unusedParams, unusedThrows,
    strayTags, unused, List.nil_append, List.append_nil]

/-- Of the reports on selected tags, at most that on the tag itself is at its position. -/
theorem filter_position_map_select (split : comment.tags = earlier ++ tag :: later)
    (test : List Tag → Tag → Bool) {report : Tag → Diagnostic}
    (inPlace : ∀ tag, (report tag).position = tag.position) :
    ((Tag.select test [] comment.tags).map report).filter (·.position = tag.position) =
      if test earlier tag then [report tag] else [] := by
  simp only [List.filter_map, Function.comp_def, inPlace]
  rw [Comment.filter_position_select split]
  split <;> rfl

/-- At the position of a tag there is its own report if it has one, and no other. -/
theorem tagReportsAt_findings (split : comment.tags = earlier ++ tag :: later) :
    tagReportsAt tag.position (findings resolver settings signature comment) =
      if isReported settings resolver signature earlier tag then [tagReport signature tag]
      else [] := by
  have duplicates : ((resultReport settings signature comment).filter isTagReport).filter
      (·.position = tag.position) =
        if signature.returnsValue && isFurtherResult earlier tag then
          [⟨.duplicateTag, tag.position, ["@return"]⟩]
        else [] := by
    rw [resultReport_eq_select]
    cases signature.returnsValue with
    | false => rfl
    | true => exact filter_position_map_select split _ fun _ => rfl
  have apart : tagReportsAt tag.position (findings resolver settings signature comment) =
      ((findings resolver settings signature comment).filter isTagReport).filter
        (·.position = tag.position) := by
    rw [List.filter_filter, tagReportsAt]
    simp only [Bool.and_comm]
  rw [apart, filter_isTagReport_findings, List.filter_append, List.filter_append,
    List.filter_append, duplicates, unusedParams_eq_select, unusedThrows_eq_select,
    strayTags_eq_select, filter_position_map_select split _ fun _ => rfl,
    filter_position_map_select split _ fun _ => rfl,
    filter_position_map_select split _ fun _ => rfl]
  cases kind : tag.kind <;> cases value : signature.returnsValue <;>
    simp [isReported, isSurplusParam, namesParam, isFurtherResult, isUnmatched, isStray, tagReport,
      kind, value]

/-- Every report on a tag is at the position of some tag. -/
theorem exists_tag_of_isTagReport {finding : Diagnostic}
    (member : finding ∈ findings resolver settings signature comment)
    (onTag : isTagReport finding = true) :
    ∃ tag ∈ comment.tags, finding.position = tag.position := by
  have of_select {test : List Tag → Tag → Bool} {report : Tag → Diagnostic}
      (inPlace : ∀ tag, (report tag).position = tag.position)
      (h : finding ∈ (Tag.select test [] comment.tags).map report) :
      ∃ tag ∈ comment.tags, finding.position = tag.position := by
    obtain ⟨tag, selected, rfl⟩ := List.mem_map.mp h
    exact ⟨tag, Tag.mem_of_mem_select selected, inPlace tag⟩
  have reported := List.mem_filter.mpr ⟨member, onTag⟩
  rw [filter_isTagReport_findings, unusedParams_eq_select, resultReport_eq_select,
    unusedThrows_eq_select, strayTags_eq_select] at reported
  simp only [List.mem_append] at reported
  rcases reported with ((h | h) | h) | h
  · exact of_select (fun _ => rfl) h
  · split at h
    · exact of_select (fun _ => rfl) h
    · cases h
  · exact of_select (fun _ => rfl) h
  · exact of_select (fun _ => rfl) h

/-- Every report on a tag is the report of a tag that is to be reported. -/
theorem exists_tagReport_eq {finding : Diagnostic}
    (member : finding ∈ findings resolver settings signature comment)
    (onTag : isTagReport finding = true) :
    ∃ earlier tag later, comment.tags = earlier ++ tag :: later ∧
      isReported settings resolver signature earlier tag = true ∧
      finding = tagReport signature tag := by
  obtain ⟨tag, inComment, position⟩ := exists_tag_of_isTagReport member onTag
  obtain ⟨earlier, later, split⟩ := List.append_of_mem inComment
  have found : finding ∈ tagReportsAt tag.position
      (findings resolver settings signature comment) := by
    simp [tagReportsAt, member, onTag, position]
  rw [tagReportsAt_findings split] at found
  refine ⟨earlier, tag, later, split, ?_⟩
  cases h : isReported settings resolver signature earlier tag <;> simp_all

/-- Every tag is either accounted for and not reported, or reported once where it stands; a tag that
names nothing and a tag for a result that there is not are always reported as unused; and nothing
else is reported about tags. -/
theorem tag_accounted_or_reported_once (resolver : Resolver α)
    (inScope : settings.inScope signature.visibility = true)
    (notLone : ∀ tag, comment.tags = [tag] → tag.kind ≠ .inheritDoc) :
    (∀ earlier tag later, comment.tags = earlier ++ tag :: later →
      (Accounted settings resolver signature earlier tag ∧
        tagReportsAt tag.position (verify settings resolver signature (some comment)) = []) ∨
      (¬ Accounted settings resolver signature earlier tag ∧
        tagReportsAt tag.position (verify settings resolver signature (some comment)) =
          [tagReport signature tag])) ∧
    (∀ tag ∈ comment.tags,
      tag.kind = .nameless ∨ (tag.kind = .result ∧ signature.returnsValue = false) →
      tagReportsAt tag.position (verify settings resolver signature (some comment)) =
        [tag.unused]) ∧
    (∀ finding ∈ verify settings resolver signature (some comment), isTagReport finding = true →
      ∃ earlier tag later, comment.tags = earlier ++ tag :: later ∧
        ¬ Accounted settings resolver signature earlier tag ∧
        finding = tagReport signature tag) := by
  rw [verify_eq_findings inScope notLone]
  refine ⟨?_, ?_, ?_⟩
  · intro earlier tag later split
    rw [tagReportsAt_findings split, accounted_iff]
    cases isReported settings resolver signature earlier tag <;> simp
  · intro tag member useless
    obtain ⟨earlier, later, split⟩ := List.append_of_mem member
    rw [tagReportsAt_findings split]
    rcases useless with kind | ⟨kind, void⟩
    · simp [isReported_of_nameless kind, tagReport, kind]
    · simp [isReported_of_result kind, tagReport, kind, void]
  · intro finding member onTag
    obtain ⟨earlier, tag, later, split, reported, own⟩ := exists_tagReport_eq member onTag
    refine ⟨earlier, tag, later, split, ?_, own⟩
    rw [accounted_iff, reported]
    simp

/-- A function of one argument that throws nothing. -/
def rootSignature : Signature where
  name := "root"
  position := ⟨7, 5⟩
  parameters := [⟨"x", false, none, none⟩]
  returnsValue := true

/-- A comment that describes the argument and the result twice, and names an exception. -/
def rootComment : Comment where
  lines :=
    ["/** @param x a number", " * @param x the same", " * @return its root",
     " * @throws ArithmeticException", " * @return nothing else */"]

theorem tags_rootComment :
    rootComment.tags =
      [⟨.param, "param", ⟨1, 5⟩, some "x", "a number"⟩,
       ⟨.param, "param", ⟨2, 4⟩, some "x", "the same"⟩,
       ⟨.result, "return", ⟨3, 4⟩, none, "its root"⟩,
       ⟨.throws, "throws", ⟨4, 4⟩, some "ArithmeticException", ""⟩,
       ⟨.result, "return", ⟨5, 4⟩, none, "nothing else"⟩] := by
  decide +kernel

theorem tagReportsAt_rootComment :
    Settings.inScope {} rootSignature.visibility = true ∧
      (∀ tag, rootComment.tags = [tag] → tag.kind ≠ .inheritDoc) ∧
      tagReportsAt ⟨2, 4⟩
          (verify {} (Settings.classTable {}).resolver rootSignature (some rootComment)) =
        [⟨.unusedTag, ⟨2, 4⟩, ["@param", "x"]⟩] := by
  have inScope : Settings.inScope {} rootSignature.visibility = true := rfl
  have notLone : ∀ tag, rootComment.tags = [tag] → tag.kind ≠ .inheritDoc := by
    simp [tags_rootComment]
  refine ⟨inScope, notLone, ?_⟩
  rcases (tag_accounted_or_reported_once (Settings.classTable {}).resolver inScope notLone).1
    [_] _ _ tags_rootComment with ⟨accounted, -⟩ | ⟨-, reported⟩
  · rw [accounted_iff] at accounted
    exact absurd accounted (by decide +kernel)
  · exact reported

end Fate

end JavadocAudit.Verification

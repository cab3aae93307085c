import JavadocAudit.FileCheck
import JavadocAudit.Proofs.Source.Declarations
import JavadocAudit.Proofs.Verification.Fate
import JavadocAudit.Proofs.Verification.Order

/-!
# Findings point at the source

A finding on a tag is at the at sign of the tag in the source text, and a finding on a parameter is
where the name of the parameter starts. The text is the one that was read from the file, and lines
and columns are counted in it. The position of a tag is put together from the position of its
comment and its place in a line of the comment, so it is right only if the comment stands in the
text as it is.
-/

namespace JavadocAudit

open Source Verification

/-- A finding points at what it is about. A tag is named by the first argument of the finding, and a
parameter by the second one, where a type parameter stands in angle brackets. -/
def Diagnostic.PointsInto (text : List Char) (finding : Diagnostic) : Prop :=
  match finding.kind with
  | .unusedTag | .duplicateTag =>
    ∃ name, finding.args.head? = some ("@" ++ name) ∧
      PointsAt text finding.position ('@' :: name.toList)
  | .invalidInheritDoc => PointsAt text finding.position "@inheritDoc".toList
  | .expectedParam =>
    ∃ name, finding.args = ["@param", name] ∧
      PointsAt text finding.position (Parameter.stripBrackets name).toList
  | .missingJavadoc | .expectedReturn | .expectedThrows | .mixedStyle => True

variable {text : List Char}

section Tags

/-- A tag of a comment that stands in a text is found in the text at its position. -/
theorem Comment.StandsIn.pointsAt_tag {comment : Comment} (h : comment.StandsIn text) {tag : Tag}
    (member : tag ∈ comment.tags) : PointsAt text tag.position ('@' :: tag.name.toList) := by
  obtain ⟨content, own, occurs⟩ := h
  obtain ⟨row, line, inLine, numbered, found, rfl⟩ := mem_tags_iff.mp member
  have lines : comment.lines = (Text.splitLines content.toList).map String.ofList :=
    congrArg Comment.lines own
  rw [lines, List.getElem?_map] at numbered
  obtain ⟨chars, placed, rfl⟩ := Option.map_eq_some_iff.mp numbered
  rw [String.toList_ofList] at found
  obtain ⟨before, behind, rfl, offset⟩ := Tag.standsIn_of_mem_ofLine found
  obtain ⟨front, back, whole, reaches⟩ := exists_append_of_line placed
  have inside : Occurs Position.next comment.start content.toList
      (comment.position row inLine.offset) ('@' :: inLine.name.toList) := by
    refine ⟨front, behind ++ back, by simp [whole], ?_⟩
    rw [Comment.position_eq_shift, offset]
    exact (reaches comment.start).symm
  refine (occurs.trans inside).pointsAt fun feed => ?_
  refine Text.newline_not_mem_of_mem_splitLines (List.mem_of_getElem? placed) ?_
  exact List.mem_append_right _ (List.mem_append_left behind feed)

end Tags

section Parameters

namespace Parameter.StandsIn

variable {parameter : Parameter}

/-- An identifier has no angle brackets. -/
theorem bareName_eq (h : parameter.StandsIn text) : parameter.bareName = parameter.name := by
  obtain ⟨_, _, _, _, identifier⟩ := h
  refine stripBrackets_eq_self fun c member => ?_
  have part := identifier c member
  simp only [isBracket, Bool.or_eq_false_iff, decide_eq_false_iff_not]
  constructor
  · rintro rfl
    exact absurd part (by decide +kernel)
  · rintro rfl
    exact absurd part (by decide +kernel)

/-- The name as a tag gives it, without angle brackets, is the name itself. -/
theorem stripBrackets_tagName (h : parameter.StandsIn text) :
    stripBrackets parameter.tagName = parameter.name :=
  parameter.stripBrackets_tagName.trans h.bareName_eq

/-- The report on a parameter is where its name stands. -/
theorem pointsAt_expectedParam (h : parameter.StandsIn text) (signature : Signature) :
    PointsAt text (expectedParam signature parameter).position parameter.name.toList := by
  obtain ⟨position, line, column, occurs, identifier⟩ := h
  have one_line : '\n' ∉ parameter.name.toList := fun feed =>
    absurd (identifier _ feed) (by decide +kernel)
  have points := occurs.pointsAt one_line
  -- Lines and columns count from one, so those of the declaration never stand in for them.
  have counted : (expectedParam signature parameter).position = position := by
    obtain ⟨row, offset, _, rfl, _⟩ := points
    have row_ne : (row : Int) + 1 ≠ 0 := by omega
    have offset_ne : (offset : Int) + 1 ≠ 0 := by omega
    simp [expectedParam, line, column, orElse, row_ne, offset_ne]
  rwa [counted]

theorem pointsInto_expectedParam (h : parameter.StandsIn text) (signature : Signature) :
    (expectedParam signature parameter).PointsInto text := by
  refine ⟨parameter.tagName, rfl, ?_⟩
  rw [h.stripBrackets_tagName]
  exact h.pointsAt_expectedParam signature

end Parameter.StandsIn

end Parameters

section Findings

variable {α : Type} {settings : Settings} {resolver : Resolver α} {signature : Signature}
variable {comment : Comment} {finding : Diagnostic}

theorem exists_of_mem_missingParams
    (h : finding ∈ missingParams settings signature comment) :
    ∃ parameter ∈ signature.parameters ++ signature.typeParameters,
      finding = expectedParam signature parameter := by
  obtain ⟨params, sub, missing⟩ := missingParams_follows settings signature comment
  rw [missing] at h
  obtain ⟨parameter, member, rfl⟩ := List.mem_map.mp h
  exact ⟨parameter, (documentedParams_sublist settings signature).subset (sub.subset member), rfl⟩

/-- A finding on a comment is about a parameter or about a tag, or it is of one of three kinds that
are about neither. -/
theorem mem_findings_cases (h : finding ∈ findings resolver settings signature comment) :
    (∃ parameter ∈ signature.parameters ++ signature.typeParameters,
      finding = expectedParam signature parameter) ∨
    isTagReport finding = true ∨
    finding.kind = .mixedStyle ∨ finding.kind = .expectedReturn ∨
      finding.kind = .expectedThrows := by
  have unused {tags : List Tag} (h : finding ∈ tags.map Tag.unused) :
      isTagReport finding = true := by
    simp [isTagReport, kind_of_mem_map_unused h]
  simp only [findings, List.mem_append] at h
  rcases h with (((((missing | mixed) | params) | result) | throws) | undocumented) | stray
  · exact .inl (exists_of_mem_missingParams missing)
  · exact .inr (.inr (.inl (kind_of_mem_mixedStyle mixed)))
  · exact .inr (.inl (unused params))
  · rcases kind_of_mem_resultReport result with duplicate | expected
    · exact .inr (.inl (by simp [isTagReport, duplicate]))
    · exact .inr (.inr (.inr (.inl expected)))
  · exact .inr (.inl (unused throws))
  · exact .inr (.inr (.inr (.inr (kind_of_mem_missingThrows undocumented))))
  · exact .inr (.inl (unused stray))

/-- The report on a tag points at it and gives its name. -/
theorem Comment.StandsIn.pointsInto_tagReport (h : comment.StandsIn text) (signature : Signature)
    {tag : Tag} (member : tag ∈ comment.tags) : (tagReport signature tag).PointsInto text := by
  have points := h.pointsAt_tag member
  unfold tagReport
  split
  · next duplicate =>
      have name := (Comment.name_of_mem_tags member).2.1 duplicate.1
      exact ⟨"return", rfl, name ▸ points⟩
  · exact ⟨tag.name, rfl, points⟩

theorem Comment.StandsIn.pointsAt_loneInheritDoc (h : comment.StandsIn text) {tag : Tag}
    (lone : loneInheritDoc? comment.tags = some tag) :
    PointsAt text tag.position "@inheritDoc".toList := by
  obtain ⟨single, kind⟩ := loneInheritDoc?_eq_some_iff.mp lone
  have member : tag ∈ comment.tags := by simp [single]
  have name := (Comment.name_of_mem_tags member).2.2 kind
  have points := h.pointsAt_tag member
  rwa [name] at points

theorem pointsInto_of_mem_findings (hc : comment.StandsIn text)
    (hp : ∀ parameter ∈ signature.parameters ++ signature.typeParameters, parameter.StandsIn text)
    (member : finding ∈ findings resolver settings signature comment) :
    finding.PointsInto text := by
  rcases mem_findings_cases member with ⟨parameter, own, rfl⟩ | onTag | other
  · exact (hp parameter own).pointsInto_expectedParam signature
  · obtain ⟨earlier, tag, later, split, -, rfl⟩ := exists_tagReport_eq member onTag
    exact hc.pointsInto_tagReport signature (by simp [split])
  · rcases other with kind | kind | kind <;> simp [Diagnostic.PointsInto, kind]

theorem pointsInto_of_mem_verify {declaration : Declaration} (h : declaration.StandsIn text)
    (member : finding ∈ verify settings resolver declaration.signature declaration.comment) :
    finding.PointsInto text := by
  obtain ⟨-, ⟨-, rfl⟩ | ⟨comment, own, ⟨tag, lone, -, rfl⟩ | inFindings⟩⟩ :=
    exists_origin_of_mem_verify member
  · trivial
  · exact (h.comment comment own).pointsAt_loneInheritDoc lone
  · exact pointsInto_of_mem_findings (h.comment comment own) h.parameters inFindings

end Findings

namespace FileCheck

theorem pointsInto_of_mem_check {parser : Parser} (true_to : (parser text).TrueTo text)
    {config : Config} {path : Path} {finding : Diagnostic}
    (h : finding ∈ check parser config path text) : finding.PointsInto text := by
  obtain ⟨member, -⟩ := List.mem_filter.mp h
  obtain ⟨declaration, declared, member⟩ := List.mem_flatMap.mp member
  exact pointsInto_of_mem_verify (File.standsIn_of_trueTo true_to declaration declared) member

/-- A file that can be read is checked, and every finding points into the text that was read, if
what the parser makes out in the text are pieces of it at the points where they start. -/
theorem checkFile_points_into_source (parser : Parser) (files : FileSystem) (config : Config)
    (path : Path) (read : readSource files path = .ok text)
    (true_to : (parser text).TrueTo text) :
    ∃ found, checkFile parser files config path = .ok found ∧
      ∀ finding ∈ found, finding.PointsInto text := by
  refine ⟨check parser config path text, ?_, fun finding => pointsInto_of_mem_check true_to⟩
  rw [checkFile, read]
  rfl

/-- A file with a character of two bytes before a comment, another one in the comment, and two
characters at the end of a line. -/
def sampleFiles : FileSystem where
  find _ := .ok (.file (Text.encodeUtf8
    "interface A \x7b\r\n /*ü*/ /** @return é */ void f(int n); \x7d".toList))

def sampleText : List Char :=
  "interface A \x7b\n /*ü*/ /** @return é */ void f(int n); \x7d".toList

theorem readSource_sampleFiles (path : Path) : readSource sampleFiles path = .ok sampleText := by
  rw [readSource, FileSystem.read, sampleFiles]
  simp only [Text.decodeUtf8_eq_ok_iff.mpr rfl, Except.ok.injEq]
  decide +kernel

/-- The first is at the `n`, 37 bytes and 35 characters into the second line, and the second is at
the at sign. -/
def sampleFindings : List Diagnostic :=
  [⟨.expectedParam, ⟨2, 36⟩, ["@param", "n"]⟩, ⟨.unusedTag, ⟨2, 12⟩, ["@return"]⟩]

theorem check_sampleText :
    check .strict {} (.ofString "A.java") sampleText = sampleFindings := by
  decide +kernel

theorem sampleFindings_point_into_sampleText :
    readSource sampleFiles (.ofString "A.java") = .ok sampleText ∧
      (Parser.strict sampleText).TrueTo sampleText ∧
      checkFile .strict sampleFiles {} (.ofString "A.java") = .ok sampleFindings ∧
      ∀ finding ∈ sampleFindings, finding.PointsInto sampleText := by
  have read := readSource_sampleFiles (.ofString "A.java")
  have true_to := Parser.strict_trueTo sampleText
  obtain ⟨found, checked, points⟩ :=
    checkFile_points_into_source .strict sampleFiles {} (.ofString "A.java") read true_to
  have own : found = sampleFindings := by
    rw [checkFile, read] at checked
    exact (Except.ok.inj checked).symm.trans check_sampleText
  subst own
  exact ⟨read, true_to, checked, points⟩

end FileCheck

end JavadocAudit

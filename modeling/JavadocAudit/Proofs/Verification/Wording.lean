import JavadocAudit.FileCheck
import JavadocAudit.Proofs.Text.Utf8
import JavadocAudit.Proofs.Verification.Order

/-!
# Every finding has a wording

A wording that lacks an argument has no text. This never happens to a finding. What is missing is
reported with its tag and its name, a second tag for the result with its own name, a tag of no use
with its name and with what it names, and all other wordings do without arguments. So every finding
on a file is printed, one line for each, and its arguments stand in the line as they are.
-/

namespace JavadocAudit

/-- The findings that there can be, with the arguments of each kind. -/
inductive Diagnostic.IsFinding : Diagnostic → Prop
  | missingJavadoc (position : Position) : IsFinding ⟨.missingJavadoc, position, []⟩
  | invalidInheritDoc (position : Position) : IsFinding ⟨.invalidInheritDoc, position, []⟩
  | expectedParam (position : Position) (name : String) :
      IsFinding ⟨.expectedParam, position, ["@param", name]⟩
  | expectedReturn (position : Position) : IsFinding ⟨.expectedReturn, position, []⟩
  | expectedThrows (position : Position) (name : String) :
      IsFinding ⟨.expectedThrows, position, ["@throws", name]⟩
  | duplicateTag (position : Position) : IsFinding ⟨.duplicateTag, position, ["@return"]⟩
  | unusedTag (position : Position) {name : String} (named : name ∈ Tag.blockNames)
      (argument : Option String) :
      IsFinding ⟨.unusedTag, position, ("@" ++ name) :: argument.toList⟩
  | mixedStyle (position : Position) : IsFinding ⟨.mixedStyle, position, []⟩

namespace Verification

variable {α : Type} {settings : Settings} {resolver : Resolver α} {signature : Signature}
variable {comment : Comment} {finding : Diagnostic}

/-- A group of reports on tags of no use, none of them on a tag that is never reported. -/
theorem FollowsTags.isFinding {kinds : List Tag.Kind} {group : List Diagnostic}
    (follows : FollowsTags comment kinds Tag.unused group) (own : .other ∉ kinds)
    (notMarker : .inheritDoc ∉ kinds) (member : finding ∈ group) : finding.IsFinding := by
  obtain ⟨tags, sub, kind, rfl⟩ := follows.reports
  obtain ⟨tag, inTags, rfl⟩ := List.mem_map.mp member
  have named : tag.name ∈ Tag.blockNames := by
    apply Comment.name_mem_blockNames (sub.subset inTags)
    · exact fun other => own (other ▸ kind tag inTags)
    · exact fun marker => notMarker (marker ▸ kind tag inTags)
  exact .unusedTag tag.position named tag.argument

theorem isFinding_of_mem_resultReport (member : finding ∈ resultReport settings signature comment) :
    finding.IsFinding := by
  rcases resultReport_follows settings signature comment with follows | missing
  · obtain ⟨tags, -, -, reports⟩ := follows.reports
    rw [reports] at member
    obtain ⟨tag, -, rfl⟩ := List.mem_map.mp member
    exact .duplicateTag tag.position
  · rw [missing, List.mem_singleton] at member
    subst member
    exact .expectedReturn signature.position

/-- One case for each group of findings. -/
theorem isFinding_of_mem_findings (h : finding ∈ findings resolver settings signature comment) :
    finding.IsFinding := by
  simp only [findings, List.mem_append] at h
  rcases h with (((((missing | mixed) | params) | result) | throws) | undocumented) | stray
  · obtain ⟨_, -, reports⟩ := missingParams_follows settings signature comment
    rw [reports] at missing
    obtain ⟨parameter, -, rfl⟩ := List.mem_map.mp missing
    exact .expectedParam _ parameter.tagName
  · rcases mixedStyle_follows settings signature comment with none | single
    · simp [none] at mixed
    · rw [single, List.mem_singleton] at mixed
      subst mixed
      exact .mixedStyle comment.start
  · exact (unusedParams_follows ..).isFinding (by decide) (by decide) params
  · exact isFinding_of_mem_resultReport result
  · exact (unusedThrows_follows ..).isFinding (by decide) (by decide) throws
  · obtain ⟨_, -, reports⟩ := missingThrows_follows resolver settings signature comment
    rw [reports] at undocumented
    obtain ⟨thrown, -, rfl⟩ := List.mem_map.mp undocumented
    exact .expectedThrows _ thrown.name
  · exact (strayTags_follows ..).isFinding (by decide) (by decide) stray

theorem isFinding_of_mem_verify {given : Option Comment}
    (h : finding ∈ verify settings resolver signature given) : finding.IsFinding := by
  obtain ⟨-, ⟨-, rfl⟩ | ⟨comment, -, ⟨tag, -, -, rfl⟩ | inFindings⟩⟩ :=
    exists_origin_of_mem_verify h
  · exact .missingJavadoc signature.position
  · exact .invalidInheritDoc tag.position
  · exact isFinding_of_mem_findings inFindings

end Verification

namespace Diagnostic

/-- A finding has a wording, and its arguments stand in it. -/
theorem IsFinding.exists_message {d : Diagnostic} (h : d.IsFinding) :
    ∃ message, d.message? = some message ∧
      ∀ argument ∈ d.args, argument.toList <:+: message.toList := by
  have shown (front argument back : String) :
      argument.toList <:+: (front ++ argument ++ back).toList := by
    rw [String.toList_append, String.toList_append]
    exact List.infix_append ..
  have single (front tag back : String) :
      ∀ argument ∈ [tag], argument.toList <:+: (front ++ tag ++ back).toList := by
    intro argument member
    rw [List.mem_singleton.mp member]
    exact shown front tag back
  have both (front tag middle name back : String) :
      ∀ argument ∈ [tag, name],
        argument.toList <:+: (front ++ tag ++ middle ++ name ++ back).toList := by
    intro argument member
    rcases List.mem_pair.mp member with rfl | rfl
    · have first := shown front argument (middle ++ name ++ back)
      simpa only [String.append_assoc] using first
    · exact shown (front ++ tag ++ middle) argument back
  cases h with
  | missingJavadoc | invalidInheritDoc | expectedReturn | mixedStyle => exact ⟨_, rfl, by simp⟩
  | expectedParam | expectedThrows => exact ⟨_, rfl, both _ _ _ _ _⟩
  | duplicateTag => exact ⟨_, rfl, single _ _ _⟩
  | unusedTag _ _ argument =>
      cases argument with
      | none => exact ⟨_, rfl, single _ _ _⟩
      | some name => exact ⟨_, rfl, both _ _ _ _ _⟩

/-- The line for a finding with a wording. -/
theorem report?_of_message? {d : Diagnostic} {message : String} (h : d.message? = some message)
    (path : String) :
    d.report? path =
      some (path ++ ":" ++ toString d.position.line ++ ":" ++ toString d.position.column ++ ": "
        ++ message) := by
  rw [report?, h]
  rfl

end Diagnostic

namespace FileCheck

variable {parser : Source.Parser} {config : Config} {path : Path} {text : List Char}

theorem isFinding_of_mem_check {finding : Diagnostic}
    (h : finding ∈ check parser config path text) : finding.IsFinding := by
  obtain ⟨found, -⟩ := List.mem_filter.mp h
  obtain ⟨declaration, -, verified⟩ := List.mem_flatMap.mp found
  exact Verification.isFinding_of_mem_verify verified

/-- A file that holds a text is checked, whatever the text says. -/
theorem checkFile_of_read {files : FileSystem}
    (read : files.read path = .ok (Text.encodeUtf8 text)) :
    checkFile parser files config path =
      .ok (check parser config path (Text.unifyBreaks text)) := by
  have decoded : Text.decodeUtf8 (Text.encodeUtf8 text) = .ok text :=
    Text.decodeUtf8_eq_ok_iff.mpr rfl
  simp only [checkFile, readSource, read, decoded]
  rfl

/-- A file that holds a text is checked, and every finding that is not silenced is printed, whatever
the parser makes out in the text. The visibility of every declaration has a name for which there is
an answer whether it is in scope, and every finding has a wording in which all its arguments stand
as they are. -/
theorem readable_file_is_checked_and_printed {files : FileSystem} (parser : Source.Parser)
    (config : Config) (read : files.read path = .ok (Text.encodeUtf8 text)) :
    ∃ found, checkFile parser files config path = .ok found ∧
      found = (findings config.settings (.ofText parser (Text.unifyBreaks text))).filter
        (fun finding =>
          !Suppression.anySilences config.suppressions path.toString finding.kind) ∧
      (∀ declaration ∈ (Source.File.ofText parser (Text.unifyBreaks text)).declarations,
        config.settings.inScopeNamed? declaration.signature.visibility.name =
          some (config.settings.inScope declaration.signature.visibility)) ∧
      ∀ finding ∈ found, ∃ message, finding.message? = some message ∧
        finding.report? path.toString =
          some (path.toString ++ ":" ++ toString finding.position.line ++ ":"
            ++ toString finding.position.column ++ ": " ++ message) ∧
        ∀ argument ∈ finding.args, argument.toList <:+: message.toList := by
  refine ⟨check parser config path (Text.unifyBreaks text), checkFile_of_read read, rfl, ?_, ?_⟩
  · intro declaration _
    exact config.settings.inScopeNamed?_name declaration.signature.visibility
  · intro finding member
    obtain ⟨message, worded, shown⟩ := (isFinding_of_mem_check member).exists_message
    exact ⟨message, worded, Diagnostic.report?_of_message? worded path.toString, shown⟩

/-- A source text with a tag for a parameter that is written in braces. -/
def braceText : List Char :=
  "interface A \x7b /** @param \x7b0\x7d n */ void f(); \x7d".toList

def bracePath : Path := ⟨"", ["A.java"]⟩

def braceFiles : FileSystem where
  find _ := .ok (.file (Text.encodeUtf8 braceText))

/-- The braces are printed. -/
theorem braces_are_printed :
    braceFiles.read bracePath = .ok (Text.encodeUtf8 braceText) ∧
      checkFile .strict braceFiles {} bracePath =
        .ok [⟨.unusedTag, ⟨1, 19⟩, ["@param", "\x7b0\x7d"]⟩] ∧
      ∃ message, Diagnostic.report? "A.java" ⟨.unusedTag, ⟨1, 19⟩, ["@param", "\x7b0\x7d"]⟩ =
          some ("A.java:1:19: " ++ message) ∧
        "\x7b0\x7d".toList <:+: message.toList := by
  have read : braceFiles.read bracePath = .ok (Text.encodeUtf8 braceText) := rfl
  have unified : Text.unifyBreaks braceText = braceText := by decide +kernel
  have computed : check .strict {} bracePath braceText =
      [⟨.unusedTag, ⟨1, 19⟩, ["@param", "\x7b0\x7d"]⟩] := by
    decide +kernel
  obtain ⟨found, checked, -, -, printed⟩ := readable_file_is_checked_and_printed .strict {} read
  have single : checkFile .strict braceFiles {} bracePath =
      .ok [⟨.unusedTag, ⟨1, 19⟩, ["@param", "\x7b0\x7d"]⟩] := by
    rw [checkFile_of_read read, unified, computed]
  obtain rfl := Except.ok.inj (checked.symm.trans single)
  obtain ⟨message, -, line, shown⟩ := printed _ (List.mem_singleton_self _)
  have shownPath : bracePath.toString = "A.java" := by simp [bracePath, Path.toString]
  rw [shownPath] at line
  exact ⟨read, single, message, line, shown _ (by simp)⟩

end FileCheck

end JavadocAudit

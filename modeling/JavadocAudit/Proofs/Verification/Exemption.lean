import JavadocAudit.Proofs.Tag.Writing
import JavadocAudit.Proofs.Verification.Order
import Mathlib.Data.List.Infix
import Mathlib.Logic.Relation

/-!
# Names that need no description

Parameters and tags are left out of the check by their names, each on its own: a parameter by the
name it is declared with, and a tag by the name it gives. The two agree, because angle brackets do
not count. So the check is blind to such names. It never reports one, it does not see parameters
come and go that have one, and a tag for one may be added to a comment in which running text does
not count.

All groups of findings that are about parameters go back to the documented parameters. For a run of
edits it is therefore enough that no single edit changes these.
-/

namespace JavadocAudit

open Text

namespace Verification

variable {α : Type} {settings : Settings} {resolver : Resolver α} {signature : Signature}
variable {comment : Comment} {finding : Diagnostic} {name : String}

section Reported

theorem isUnusedParam_tagName_of_mem_documentedParams {p : Parameter}
    (h : p ∈ documentedParams settings signature) : settings.isUnusedParam p.tagName = false := by
  rw [settings.isUnusedParam_tagName]
  simpa using (List.mem_filter.mp h).2

theorem isUnusedParam_of_mem_paramTags {tag : Tag} (h : tag ∈ paramTags settings comment)
    (named : tag.argument = some name) : settings.isUnusedParam name = false := by
  simpa [named] using (Bool.and_eq_true_iff.mp (List.mem_filter.mp h).2).2

/-- Only the report on a tag for a parameter looks like one. -/
theorem of_args_unused_eq_param {tag : Tag} (inComment : tag ∈ comment.tags)
    (args : tag.unused.args = ["@param", name]) :
    tag.kind = .param ∧ tag.argument = some name := by
  obtain ⟨sign, named⟩ := List.cons.inj args
  have own : tag.name = "param" := by
    have chars : '@' :: tag.name.toList = '@' :: "param".toList := by
      simpa using congrArg String.toList sign
    exact String.toList_inj.mp (List.cons.inj chars).2
  have named : tag.argument = some name := by
    cases argument : tag.argument with
    | none => simp [argument] at named
    | some other => simpa [argument] using named
  have kind := comment.kind_of_argument_eq_some inComment named
  rw [own] at kind
  exact ⟨kind, named⟩

/-- Tags of other kinds are not reported under the name of a parameter. -/
theorem FollowsTags.args_ne_param {kinds : List Tag.Kind} {group : List Diagnostic}
    (follows : FollowsTags comment kinds Tag.unused group) (other : .param ∉ kinds)
    (member : finding ∈ group) : finding.args ≠ ["@param", name] := by
  intro args
  obtain ⟨tags, sub, kind, rfl⟩ := follows.reports
  obtain ⟨tag, inTags, rfl⟩ := List.mem_map.mp member
  have own := (of_args_unused_eq_param (sub.subset inTags) args).1
  exact other (own ▸ kind tag inTags)

theorem isUnusedParam_of_mem_unusedParams (h : finding ∈ unusedParams settings signature comment)
    (args : finding.args = ["@param", name]) : settings.isUnusedParam name = false := by
  obtain ⟨tag, left, rfl⟩ := List.mem_map.mp h
  have own : tag ∈ paramTags settings comment := (settleParams_left_sublist ..).subset left
  exact isUnusedParam_of_mem_paramTags own
    (of_args_unused_eq_param (List.mem_filter.mp own).1 args).2

/-- One case for each group of findings. -/
theorem isUnusedParam_of_mem_findings (h : finding ∈ findings resolver settings signature comment)
    (args : finding.args = ["@param", name]) : settings.isUnusedParam name = false := by
  simp only [findings, List.mem_append] at h
  rcases h with (((((missing | mixed) | params) | result) | throws) | undocumented) | stray
  · obtain ⟨documented, sub, reports⟩ := missingParams_follows settings signature comment
    rw [reports] at missing
    obtain ⟨p, inDocumented, rfl⟩ := List.mem_map.mp missing
    obtain rfl : p.tagName = name := by simpa [expectedParam] using args
    exact isUnusedParam_tagName_of_mem_documentedParams (sub.subset inDocumented)
  · rcases mixedStyle_follows settings signature comment with none | single
    · simp [none] at mixed
    · rw [single, List.mem_singleton] at mixed
      subst mixed
      cases args
  · exact isUnusedParam_of_mem_unusedParams params args
  · rcases resultReport_follows settings signature comment with follows | expected
    · obtain ⟨tags, -, -, reports⟩ := follows.reports
      rw [reports] at result
      obtain ⟨tag, -, rfl⟩ := List.mem_map.mp result
      simp [duplicateResult] at args
    · rw [expected, List.mem_singleton] at result
      subst result
      cases args
  · exact absurd args ((unusedThrows_follows ..).args_ne_param (by decide) throws)
  · obtain ⟨thrown, -, reports⟩ := missingThrows_follows resolver settings signature comment
    rw [reports] at undocumented
    obtain ⟨type, -, rfl⟩ := List.mem_map.mp undocumented
    simp [expectedThrown] at args
  · exact absurd args ((strayTags_follows ..).args_ne_param (by decide) stray)

/-- No finding is about a name that needs no description. -/
theorem isUnusedParam_of_mem_verify {given : Option Comment}
    (h : finding ∈ verify settings resolver signature given)
    (args : finding.args = ["@param", name]) : settings.isUnusedParam name = false := by
  obtain ⟨-, ⟨-, rfl⟩ | ⟨comment, -, ⟨tag, -, -, rfl⟩ | inFindings⟩⟩ :=
    exists_origin_of_mem_verify h
  · cases args
  · cases args
  · exact isUnusedParam_of_mem_findings inFindings args

end Reported

section Declared

/-- The second list has one parameter more, and its name needs no description. -/
inductive OneMore (settings : Settings) : List Parameter → List Parameter → Prop
  | intro (front : List Parameter) {p : Parameter} (back : List Parameter)
      (exempt : settings.isUnusedParam p.name = true) :
      OneMore settings (front ++ back) (front ++ p :: back)

/-- A parameter whose name needs no description comes or goes. -/
inductive ExemptEdit (settings : Settings) (signature : Signature) : Signature → Prop
  | insert {parameters : List Parameter}
      (more : OneMore settings signature.parameters parameters) :
      ExemptEdit settings signature { signature with parameters }
  | remove {parameters : List Parameter}
      (fewer : OneMore settings parameters signature.parameters) :
      ExemptEdit settings signature { signature with parameters }
  | insertType {typeParameters : List Parameter}
      (more : OneMore settings signature.typeParameters typeParameters) :
      ExemptEdit settings signature { signature with typeParameters }
  | removeType {typeParameters : List Parameter}
      (fewer : OneMore settings typeParameters signature.typeParameters) :
      ExemptEdit settings signature { signature with typeParameters }

theorem OneMore.filter_eq {fewer more : List Parameter} (h : OneMore settings fewer more) :
    more.filter (!settings.isUnusedParam ·.name) =
      fewer.filter (!settings.isUnusedParam ·.name) := by
  obtain ⟨front, back, exempt⟩ := h
  simp [exempt]

/-- Of the parameters, the check sees those that have to be described. -/
theorem verify_congr_documentedParams {parameters typeParameters : List Parameter}
    (resolver : Resolver α)
    (same : documentedParams settings { signature with parameters, typeParameters } =
      documentedParams settings signature) (comment : Option Comment) :
    verify settings resolver { signature with parameters, typeParameters } comment =
      verify settings resolver signature comment := by
  have narrated (comment : Comment) :
      isNarrated settings { signature with parameters, typeParameters } comment =
        isNarrated settings signature comment := by
    funext parameter
    rw [isNarrated, same, isNarrated]
  have settled (comment : Comment) :
      settledParams settings { signature with parameters, typeParameters } comment =
        settledParams settings signature comment := by
    rw [settledParams, narrated, same, settledParams]
  have found (comment : Comment) :
      findings resolver settings { signature with parameters, typeParameters } comment =
        findings resolver settings signature comment := by
    simp only [findings, missingParams, mixedStyle, unusedParams, settled]
    rfl
  simp only [verify, found]
  rfl

theorem ExemptEdit.verify_eq {edited : Signature} (edit : ExemptEdit settings signature edited)
    (resolver : Resolver α) (comment : Option Comment) :
    verify settings resolver edited comment = verify settings resolver signature comment := by
  cases edit with
  | insert one | remove one | insertType one | removeType one =>
      refine verify_congr_documentedParams resolver ?_ comment
      simp only [documentedParams, List.filter_append, one.filter_eq]

/-- Any number of such parameters may come and go. -/
theorem verify_eq_of_exemptEdits {edited : Signature}
    (edits : Relation.ReflTransGen (ExemptEdit settings) signature edited)
    (resolver : Resolver α) (comment : Option Comment) :
    verify settings resolver edited comment = verify settings resolver signature comment := by
  induction edits with
  | refl => rfl
  | tail _ edit ih => rw [edit.verify_eq resolver comment, ih]

end Declared

section Written

/-- A line with a tag for a parameter, and nothing behind the name. -/
def paramLine (name : String) : String := " * @param " ++ name

/-- A name that can be told from the line of its tag. -/
structure PlainName (name : String) : Prop where
  nonempty : name.toList ≠ []
  word : name.toList.any isBlank = false
  notClosing : ¬['*', '/'] <:+: name.toList
  notMarker : ¬Tag.HasMarker name.toList

theorem PlainName.blockTag?_paramLine (plain : PlainName name) :
    Tag.blockTag? (paramLine name).toList = some ⟨3, .param, "param", some name, ""⟩ := by
  have line : (paramLine name).toList =
      ' ' :: '*' :: ' ' :: '@' :: 'p' :: ("aram".toList ++ ' ' :: name.toList) := by
    simp [paramLine]
  have notClosed : Tag.dropClosing (' ' :: name.toList) = ' ' :: name.toList := by
    refine Tag.dropClosing_eq_self fun closing => plain.notClosing ?_
    rcases List.infix_cons_iff.mp closing with start | later
    · exact absurd (List.cons_prefix_cons.mp start).1 (by decide)
    · exact later
  have oneLine : '\n' ∉ ' ' :: name.toList ++ [' '] := by
    simp [Tag.newline_not_mem_of_word plain.word]
  have inName : ∀ c ∈ "aram".toList, isWord c = true := List.all_eq_true.mp (by decide +kernel)
  have blank : ∀ c ∈ [' '], isBlank c = true := List.all_eq_true.mp (by decide +kernel)
  have argumentWord : ∀ word ∈ some name,
      word.toList ≠ [] ∧ word.toList.any isBlank = false := by
    rintro _ ⟨rfl⟩
    exact ⟨plain.nonempty, plain.word⟩
  have written : Tag.blockTag 3 "param".toList (Tag.tagText (some name) "") =
      ⟨3, .param, "param", some name, ""⟩ :=
    Tag.blockTag_written rfl argumentWord (by decide) rfl rfl 3
  calc Tag.blockTag? (paramLine name).toList
    _ = some (Tag.blockTag 3 "param".toList (' ' :: name.toList)) := by
        rw [line, Tag.blockTag?_written (by decide) inName, notClosed]
        rfl
    _ = some (Tag.blockTag 3 "param".toList (' ' :: name.toList ++ [' '])) := by
        rw [Tag.blockTag_append_blanks blank oneLine]
    _ = some ⟨3, .param, "param", some name, ""⟩ := by
        rw [← written]
        rfl

theorem PlainName.ofLine_paramLine (plain : PlainName name) :
    Tag.ofLine (paramLine name).toList = [⟨3, .param, "param", some name, ""⟩] := by
  have line : (paramLine name).toList = " * @param ".toList ++ name.toList := by
    simp [paramLine]
  have noMarker : Tag.markersFrom 0 (paramLine name).toList = [] := by
    rw [line, Tag.markersFrom_append_of_no_brace (by decide), Tag.markersFrom_eq_nil_iff]
    exact plain.notMarker
  rw [Tag.ofLine, plain.blockTag?_paramLine, noMarker]
  rfl

/-- The tags of the comment with such a line: there is one more, and it is for the name. -/
theorem PlainName.exists_tags_addLine (plain : PlainName name) (comment : Comment) :
    ∃ tag : Tag, (comment.addLine (paramLine name)).tags = comment.tags ++ [tag] ∧
      tag.kind = .param ∧ tag.argument = some name := by
  rw [comment.tags_addLine, plain.ofLine_paramLine]
  exact ⟨_, rfl, rfl, rfl⟩

/-- A tag for a name that needs no description is no part of any group. -/
theorem findings_addLine (resolver : Resolver α) (signature : Signature) (comment : Comment)
    (params : settings.allowNarrativeParams = false)
    (result : settings.allowNarrativeReturn = false) (plain : PlainName name)
    (exempt : settings.isUnusedParam name = true) :
    findings resolver settings signature (comment.addLine (paramLine name)) =
      findings resolver settings signature comment := by
  obtain ⟨tag, tags, kind, argument⟩ := plain.exists_tags_addLine comment
  have inherited : isInherited (comment.addLine (paramLine name)) = isInherited comment := by
    simp [isInherited, tags, kind]
  have narrated (comment : Comment) : isNarrated settings signature comment = fun _ => false := by
    funext parameter
    simp [isNarrated, params]
  apply findings_congr
  · rfl
  · exact inherited
  · simp [settledParams, narrated, paramTags, tags, kind, argument, exempt]
  · simp [resultReport, resultTags, tags, kind, inherited, result]
  · simp [throwsTags, tags, kind]
  · simp [strayTags, tags, kind]

theorem verify_addLine (resolver : Resolver α) (signature : Signature)
    (params : settings.allowNarrativeParams = false)
    (result : settings.allowNarrativeReturn = false)
    (notLone : ∀ tag, comment.tags = [tag] → tag.kind ≠ .inheritDoc) (plain : PlainName name)
    (exempt : settings.isUnusedParam name = true) :
    verify settings resolver signature (some (comment.addLine (paramLine name))) =
      verify settings resolver signature (some comment) := by
  by_cases inScope : settings.inScope signature.visibility = true
  · obtain ⟨added, tags, kind, -⟩ := plain.exists_tags_addLine comment
    have stillNotLone : ∀ tag, (comment.addLine (paramLine name)).tags = [tag] →
        tag.kind ≠ .inheritDoc := by
      intro tag alone
      rw [tags, List.append_eq_singleton_iff] at alone
      rcases alone with ⟨-, only⟩ | ⟨-, none⟩
      · obtain rfl := (List.cons.inj only).1
        simp [kind]
      · cases none
    rw [verify_eq_findings inScope stillNotLone, verify_eq_findings inScope notLone,
      findings_addLine resolver signature comment params result plain exempt]
  · simp [verify, inScope]

end Written

/-- Names that need no description leave no trace in what is found. -/
theorem exempt_names_are_invisible (settings : Settings) (resolver : Resolver α)
    (signature : Signature) :
    (∀ (comment : Option Comment), ∀ finding ∈ verify settings resolver signature comment,
      ∀ name, finding.args = ["@param", name] → settings.isUnusedParam name = false) ∧
    (∀ edited, Relation.ReflTransGen (ExemptEdit settings) signature edited →
      ∀ comment : Option Comment,
        verify settings resolver edited comment = verify settings resolver signature comment) ∧
    ∀ (comment : Comment) (name : String), settings.allowNarrativeParams = false →
      settings.allowNarrativeReturn = false →
      (∀ tag, comment.tags = [tag] → tag.kind ≠ .inheritDoc) → PlainName name →
      settings.isUnusedParam name = true →
      verify settings resolver signature (some (comment.addLine (paramLine name))) =
        verify settings resolver signature (some comment) := by
  refine ⟨?_, ?_, ?_⟩
  · intro comment finding member name args
    exact isUnusedParam_of_mem_verify member args
  · intro edited edits comment
    exact verify_eq_of_exemptEdits edits resolver comment
  · intro comment name params result notLone plain exempt
    exact verify_addLine resolver signature params result notLone plain exempt

def underscored : Pattern :=
  ⟨"_.*", .seq (.char {} 95) (.repeated 0 none .most (.any {}))⟩

def sendSettings : Settings := { unusedParams := some underscored }

def sendSignature : Signature where
  name := "send"
  position := ⟨4, 1⟩
  parameters := [⟨"x", false, none, none⟩]
  typeParameters := [⟨"_T", true, none, none⟩]

def sendComment : Comment where
  lines := ["/** Sends.", " * @param y no such", " */"]

theorem sendSignature_edited :
    sendSettings.isUnusedParam "y" = false ∧
      verify sendSettings (ClassTable.withStandard []).resolver
          { sendSignature with
            parameters := [⟨"_log", false, none, none⟩, ⟨"x", false, none, none⟩]
            typeParameters := [] } (some sendComment) =
        [⟨.expectedParam, ⟨4, 1⟩, ["@param", "x"]⟩, ⟨.unusedTag, ⟨2, 4⟩, ["@param", "y"]⟩] ∧
      verify sendSettings (ClassTable.withStandard []).resolver sendSignature
          (some (sendComment.addLine " * @param <_R>")) =
        [⟨.expectedParam, ⟨4, 1⟩, ["@param", "x"]⟩, ⟨.unusedTag, ⟨2, 4⟩, ["@param", "y"]⟩] := by
  have found : verify sendSettings (ClassTable.withStandard []).resolver sendSignature
        (some sendComment) =
      [⟨.expectedParam, ⟨4, 1⟩, ["@param", "x"]⟩, ⟨.unusedTag, ⟨2, 4⟩, ["@param", "y"]⟩] := by
    decide +kernel
  obtain ⟨reported, edited, added⟩ := exempt_names_are_invisible sendSettings
    (ClassTable.withStandard []).resolver sendSignature
  refine ⟨?_, ?_, ?_⟩
  · exact reported (some sendComment) ⟨.unusedTag, ⟨2, 4⟩, ["@param", "y"]⟩ (by simp [found])
      "y" rfl
  · refine (edited _ ?_ (some sendComment)).trans found
    have log : OneMore sendSettings [⟨"x", false, none, none⟩]
        [⟨"_log", false, none, none⟩, ⟨"x", false, none, none⟩] := .intro [] _ (by decide +kernel)
    have type : OneMore sendSettings [] [⟨"_T", true, none, none⟩] :=
      .intro [] [] (by decide +kernel)
    exact .tail (.single (.insert log)) (.removeType type)
  · have plain : PlainName "<_R>" :=
      ⟨by decide, by decide +kernel, by decide, by decide +kernel⟩
    have notLone : ∀ tag, sendComment.tags = [tag] → tag.kind ≠ .inheritDoc := by
      rw [← loneInheritDoc?_eq_none_iff]
      decide +kernel
    exact (added sendComment "<_R>" rfl rfl notLone plain (by decide +kernel)).trans found

end Verification

end JavadocAudit

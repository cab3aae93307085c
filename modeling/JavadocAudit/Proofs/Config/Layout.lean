import JavadocAudit.Config.Standard
import JavadocAudit.Proofs.Config.Spelling

/-!
# The two layouts of a configuration

The settings stand at the top level, beside the suppressions, or in a section of their own, beside
the suppressions and whatever else. Both layouts describe the same settings and the same
suppressions. Together with the spellings of the options this says which configurations are the
same.
-/

namespace JavadocAudit.Config

variable {own other top front back : List (Scalar × Value)} {value : Value}

theorem standard_entry? (entries : List (Scalar × Value)) (name : String) :
    Library.standard.entry? entries name = Value.entry? entries name := rfl

/-- The entries have no section and no suppressions. -/
def IsPlain (entries : List (Scalar × Value)) : Prop :=
  Value.entry? entries settingsKey = none ∧ Value.entry? entries suppressionsKey = none

theorem settingsKey_ne_suppressionsKey : settingsKey ≠ suppressionsKey := by decide

theorem settingsEntries_of_no_section {entries : List (Scalar × Value)}
    (h : Value.entry? entries settingsKey = none) :
    settingsEntries .standard entries =
      .ok (entries.filter fun entry => entry.1 != .text suppressionsKey) := by
  rw [settingsEntries, standard_entry?, h]
  rfl

theorem IsPlain.filter (plain : IsPlain own) :
    (own.filter fun entry => entry.1 != .text suppressionsKey) = own := by
  rw [List.filter_eq_self]
  rintro ⟨key, value⟩ member
  have absent := Value.entry?_eq_none_iff.mp plain.2 value
  simp only [bne_iff_ne]
  rintro rfl
  exact absent member

theorem IsPlain.settingsEntries (plain : IsPlain own) :
    settingsEntries .standard own = .ok own := by
  rw [settingsEntries_of_no_section plain.1, plain.filter]

/-- The settings at the top level are all but the suppressions. -/
theorem IsPlain.settingsEntries_flat (plain : IsPlain (front ++ back)) :
    Config.settingsEntries .standard (front ++ (.text suppressionsKey, value) :: back) =
      .ok (front ++ back) := by
  have none :
      Value.entry? (front ++ (.text suppressionsKey, value) :: back) settingsKey = none := by
    rw [Value.entry?_eq_none_iff]
    intro given member
    have absent := Value.entry?_eq_none_iff.mp plain.1 given
    have different := settingsKey_ne_suppressionsKey
    simp_all
  rw [settingsEntries_of_no_section none, ← plain.filter]
  simp

theorem IsPlain.entry?_flat (plain : IsPlain (front ++ back)) :
    Value.entry? (front ++ (.text suppressionsKey, value) :: back) suppressionsKey =
      some value := by
  apply Value.entry?_of_only
  · simp
  · intro given member
    have absent := Value.entry?_eq_none_iff.mp plain.2 given
    simp_all

section Section

variable (plain : IsPlain other)
  (perm : top.Perm ((.text settingsKey, .map own) :: (.text suppressionsKey, value) :: other))
include plain perm

/-- The settings in a section are those that the section gives. -/
theorem settingsEntries_section : settingsEntries .standard top = .ok own := by
  have found : Value.entry? top settingsKey = some (.map own) := by
    apply Value.entry?_of_only
    · rw [perm.mem_iff]
      exact List.mem_cons_self
    · intro given member
      have absent := Value.entry?_eq_none_iff.mp plain.1 given
      have different := settingsKey_ne_suppressionsKey
      rw [perm.mem_iff] at member
      simp_all
  rw [settingsEntries, standard_entry?, found]
  rfl

theorem entry?_section : Value.entry? top suppressionsKey = some value := by
  apply Value.entry?_of_only
  · rw [perm.mem_iff]
    simp
  · intro given member
    have absent := Value.entry?_eq_none_iff.mp plain.2 given
    have different := settingsKey_ne_suppressionsKey.symm
    rw [perm.mem_iff] at member
    simp_all

end Section

/-- The settings that entries describe, or how they are refused. -/
theorem parseSettings_of_settingsEntries {entries : List (Scalar × Value)}
    (h : settingsEntries .standard entries = .ok own) :
    parseSettings .standard entries =
      ofChecked .invalidSettings ((decodeSettings own).checked settingsModel) := by
  rw [parseSettings, h]
  rfl

def settingsRefused (issues : List Issue) : Except (Failure Invalid Exception) Settings :=
  refuse Exception (.invalidSettings ⟨settingsModel, issues⟩)

/-- Outcomes that differ in spellings only are accepted alike or refused alike. -/
theorem ofChecked_respelled {rename : String → String} {decoded decoded' : Decoded Settings}
    (h : Decoded.Respelled rename decoded decoded') :
    let outcome (decoded : Decoded Settings) :=
      ofChecked .invalidSettings (decoded.checked settingsModel)
    (∃ settings, outcome decoded = .ok settings ∧ outcome decoded' = .ok settings) ∨
    (∃ issues issues', outcome decoded = settingsRefused issues ∧
      outcome decoded' = settingsRefused issues' ∧
      issues'.Perm (issues.map (Issue.respell rename))) ∨
    ∃ exception, outcome decoded = .error (.raised exception) ∧
      outcome decoded' = .error (.raised exception) := by
  cases h with
  | ok settings => exact .inl ⟨settings, rfl, rfl⟩
  | issues perm => exact .inr (.inl ⟨_, _, rfl, rfl, perm⟩)
  | raised fault => exact .inr (.inr ⟨_, rfl, rfl⟩)

theorem parseSuppressions_congr {entries entries' : List (Scalar × Value)}
    (h : Value.entry? entries suppressionsKey = Value.entry? entries' suppressionsKey) :
    parseSuppressions .standard entries = parseSuppressions .standard entries' := by
  rw [parseSuppressions, parseSuppressions, standard_entry?, standard_entry?, h]

theorem IsPlain.respelled (plain : IsPlain own) {rename : String → String}
    (respells : Respells rename) {respelled : List (Scalar × Value)}
    (perm : respelled.Perm (respellKeys rename own)) : IsPlain respelled :=
  ⟨respells.entry?_eq_none perm (by decide +kernel) plain.1,
    respells.entry?_eq_none perm (by decide +kernel) plain.2⟩

/-- Settings at the top level, beside suppressions or in a section of their own are the same
settings or are refused for the same issues, and the suppressions are read alike from both layouts.
Settings with other spellings of their options or in another order are the same settings, or are
refused for the same issues at the places that the keys have under their new names. -/
theorem layouts_and_spellings_are_equivalent (plain : IsPlain own) (plainOther : IsPlain other)
    (value : Value) :
    (∀ front back top, own = front ++ back →
      top.Perm ((.text settingsKey, .map own) :: (.text suppressionsKey, value) :: other) →
        parseSettings .standard (front ++ (.text suppressionsKey, value) :: back) =
          parseSettings .standard own ∧
        parseSettings .standard top = parseSettings .standard own ∧
        parseSuppressions .standard top =
          parseSuppressions .standard (front ++ (.text suppressionsKey, value) :: back)) ∧
    ∀ rename respelled, IsMapping own → Field.GivenOnce own → Respells rename →
      respelled.Perm (respellKeys rename own) →
        (∃ settings, parseSettings .standard own = .ok settings ∧
          parseSettings .standard respelled = .ok settings) ∨
        (∃ issues issues', parseSettings .standard own = settingsRefused issues ∧
          parseSettings .standard respelled = settingsRefused issues' ∧
          issues'.Perm (issues.map (Issue.respell rename))) ∨
        ∃ exception, parseSettings .standard own = .error (.raised exception) ∧
          parseSettings .standard respelled = .error (.raised exception) := by
  have parsed := parseSettings_of_settingsEntries plain.settingsEntries
  constructor
  · rintro front back top rfl perm
    rw [parsed, parseSettings_of_settingsEntries plain.settingsEntries_flat,
      parseSettings_of_settingsEntries (settingsEntries_section plainOther perm)]
    refine ⟨rfl, rfl, parseSuppressions_congr ?_⟩
    rw [entry?_section plainOther perm, plain.entry?_flat]
  · intro rename respelled mapping once respells perm
    have plain' := plain.respelled respells perm
    rw [parsed, parseSettings_of_settingsEntries plain'.settingsEntries]
    have unambiguous := Field.unambiguous_of_givenOnce mapping once
    exact ofChecked_respelled (respells.decodeSettings perm unambiguous)

/-- Takes a property name to the plain name of its option. -/
def toPlainName (key : String) : String :=
  ((Field.all.find? (·.property = key)).map Field.name).getD key

theorem respells_toPlainName : Respells toPlainName := by
  intro key
  cases found : Field.all.find? (·.property = key) with
  | none => exact .inl (by rw [toPlainName, found]; rfl)
  | some field =>
      have property : field.property = key := by simpa using List.find?_some found
      have plain : toPlainName key = field.name := by rw [toPlainName, found]; rfl
      refine .inr ⟨field, List.mem_of_find?_eq_some found, ?_, ?_⟩
      · simp [Field.spellings, property]
      · simp [Field.spellings, plain]

/-- Settings with a number that is no number, a key that is no text and a key of no option. -/
def faultyEntries : List (Scalar × Value) :=
  [(.text "colour", .scalar .null), (.int 7, .scalar .null),
   (.text "minLineCount", .scalar (.text "many")), (.text "scope", .scalar (.text "public"))]

/-- Turned around and with plain names, the settings are refused for the same issues. -/
theorem faultyEntries_refused_alike :
    IsPlain faultyEntries ∧ IsMapping faultyEntries ∧ Field.GivenOnce faultyEntries ∧
      parseSettings .standard
          [(.text suppressionsKey, .list []), (.text settingsKey, .map faultyEntries)] =
        settingsRefused [⟨[.name "minLineCount"], .intParsing⟩,
          ⟨[.name "colour"], .extraForbidden⟩, ⟨[.index 7], .invalidKey⟩] ∧
      ∃ issues, parseSettings .standard (respellKeys toPlainName faultyEntries).reverse =
          settingsRefused issues ∧
        issues.Perm [⟨[.name "min_line_count"], .intParsing⟩,
          ⟨[.name "colour"], .extraForbidden⟩, ⟨[.index 7], .invalidKey⟩] := by
  have plain : IsPlain faultyEntries := ⟨rfl, rfl⟩
  have mapping : IsMapping faultyEntries := by decide +kernel
  have once : Field.GivenOnce faultyEntries := by decide +kernel
  have refused : parseSettings .standard faultyEntries =
      settingsRefused [⟨[.name "minLineCount"], .intParsing⟩,
        ⟨[.name "colour"], .extraForbidden⟩, ⟨[.index 7], .invalidKey⟩] := rfl
  obtain ⟨layouts, spellings⟩ :=
    layouts_and_spellings_are_equivalent plain (show IsPlain [] from ⟨rfl, rfl⟩) (.list [])
  obtain ⟨-, inSection, -⟩ := layouts faultyEntries [] _ (by simp) (List.Perm.swap ..)
  refine ⟨plain, mapping, once, inSection.trans refused, ?_⟩
  rcases spellings toPlainName _ mapping once respells_toPlainName (List.reverse_perm _)
    with ⟨settings, accepted, -⟩ | ⟨issues, issues', same, respelled, perm⟩ | ⟨_, raised, -⟩
  · cases refused.symm.trans accepted
  · cases refused.symm.trans same
    exact ⟨issues', respelled, perm⟩
  · cases refused.symm.trans raised

end JavadocAudit.Config

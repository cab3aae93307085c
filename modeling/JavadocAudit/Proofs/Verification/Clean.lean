import JavadocAudit.Proofs.Verification.Findings
import JavadocAudit.Proofs.Verification.Params
import JavadocAudit.Proofs.Verification.Throws
import Mathlib.Data.Multiset.Defs

/-!
# Comments without findings

Under settings that forgive nothing, a comment has no findings exactly if it is complete: its tags
name the parameters, each as often as it is there, it has one tag for a result if there is one, no
tag is without the name it needs, and its tags for exceptions and the declared exceptions use each
other up. Each group of findings is empty under a condition of its own; the result puts these
conditions together.
-/

namespace JavadocAudit

/-- Settings that forgive nothing that is missing from a comment or is too much in it. -/
structure Settings.IsStrict (settings : Settings) : Prop where
  narrativeParams : settings.allowNarrativeParams = false
  narrativeReturn : settings.allowNarrativeReturn = false
  missingParams : settings.allowMissingParams = false
  missingReturn : settings.allowMissingReturn = false
  missingThrows : settings.allowMissingThrows = false
  undeclaredUnchecked : settings.allowUndeclaredUnchecked = false
  missingComment : settings.allowMissingComment = false
  unusedParams : settings.unusedParams = none

namespace Verification

variable {α : Type} {settings : Settings} {resolver : Resolver α} {signature : Signature}
variable {comment : Comment}

/-- The tags of a kind, in the order of the comment. -/
def tagsOf (kind : Tag.Kind) (comment : Comment) : List Tag := comment.tags.filter (·.kind = kind)

theorem resultTags_eq (comment : Comment) : resultTags comment = tagsOf .result comment := rfl

theorem throwsTags_eq (comment : Comment) : throwsTags comment = tagsOf .throws comment := rfl

theorem isInherited_eq_false (noMarker : ∀ tag ∈ comment.tags, tag.kind ≠ .inheritDoc) :
    isInherited comment = false := by
  simpa [isInherited] using noMarker

section Params

theorem isUnusedParam_of_strict (strict : settings.IsStrict) :
    settings.isUnusedParam = fun _ => false := by
  funext name
  simp [Settings.isUnusedParam, strict.unusedParams]

theorem documentedParams_of_strict (strict : settings.IsStrict) :
    documentedParams settings signature = signature.parameters ++ signature.typeParameters := by
  simp [documentedParams, isUnusedParam_of_strict strict]

theorem paramTags_of_strict (strict : settings.IsStrict) :
    paramTags settings comment = tagsOf .param comment := by
  simp [paramTags, tagsOf, isUnusedParam_of_strict strict]

/-- Without running text a parameter has a tag or is missing. -/
theorem treatment_of_not_narrated {params : List Parameter} {tags : List Tag}
    {isNarrated : Parameter → Bool} (h : ∀ p, isNarrated p = false) :
    ∀ settled ∈ (settleParams isNarrated params tags).1,
      settled.2 = .tagged ∨ settled.2 = .missing := by
  induction params generalizing tags with
  | nil => simp
  | cons p rest ih =>
      by_cases hp : tags.any (·.describes p) = true
      · rw [settleParams_cons_of_described hp]
        intro settled member
        rcases List.mem_cons.mp member with rfl | member
        · exact .inl rfl
        · exact ih settled member
      · rw [settleParams_cons_of_not_described (by simpa using hp), h p]
        intro settled member
        rcases List.mem_cons.mp member with rfl | member
        · exact .inr rfl
        · exact ih settled member

theorem treatment_of_strict (strict : settings.IsStrict) :
    ∀ settled ∈ (settledParams settings signature comment).1,
      settled.2 = .tagged ∨ settled.2 = .missing :=
  treatment_of_not_narrated fun p => by simp [isNarrated, strict.narrativeParams]

theorem mixedStyle_eq_nil (strict : settings.IsStrict) :
    mixedStyle settings signature comment = [] := by
  have none_narrated :
      (settledParams settings signature comment).1.any (·.2 = .narrated) = false := by
    simp only [List.any_eq_false, decide_eq_true_eq]
    intro settled member
    rcases treatment_of_strict strict settled member with h | h <;> simp [h]
  simp [mixedStyle, none_narrated]

theorem missingParams_eq_nil_iff (strict : settings.IsStrict) (own : isInherited comment = false) :
    missingParams settings signature comment = [] ↔
      ∀ settled ∈ (settledParams settings signature comment).1, settled.2 = .tagged := by
  have only_tagged : ∀ settled ∈ (settledParams settings signature comment).1,
      settled.2 ≠ .missing ↔ settled.2 = .tagged := by
    intro settled member
    rcases treatment_of_strict strict settled member with h | h <;> simp [h]
  rw [← forall₂_congr only_tagged]
  simp [missingParams, strict.missingParams, own, List.filter_eq_nil_iff]

/-- Nothing is reported on parameters exactly if tags and parameters have the same names. -/
theorem params_clean_iff (strict : settings.IsStrict) (own : isInherited comment = false) :
    (missingParams settings signature comment = [] ∧
        unusedParams settings signature comment = []) ↔
      ((tagsOf .param comment).map Tag.argument).Perm
        ((signature.parameters ++ signature.typeParameters).map fun p => some p.tagName) := by
  rw [missingParams_eq_nil_iff strict own, unusedParams, List.map_eq_nil_iff,
    ← paramTags_of_strict strict, ← documentedParams_of_strict strict]
  exact settleParams_complete_iff _ _ _

end Params

section Result

/-- Nothing is reported on results, here and at the end, exactly if there is one tag for a result
that exists and none for a result that does not. -/
theorem result_clean_iff (strict : settings.IsStrict) (own : isInherited comment = false) :
    (resultReport settings signature comment = [] ∧
        (signature.returnsValue = false → tagsOf .result comment = [])) ↔
      (tagsOf .result comment).length = if signature.returnsValue then 1 else 0 := by
  rw [resultReport, resultTags_eq]
  cases signature.returnsValue with
  | false => simp
  | true =>
      cases tagsOf .result comment with
      | nil => simp [strict.missingReturn, strict.narrativeReturn, own]
      | cons first duplicates => simp

theorem strayTags_eq_nil_iff :
    strayTags signature comment = [] ↔
      (∀ tag ∈ comment.tags, tag.kind ≠ .nameless) ∧
        (signature.returnsValue = false → tagsOf .result comment = []) := by
  simp only [strayTags, tagsOf, List.map_eq_nil_iff, List.filter_eq_nil_iff, Bool.or_eq_true,
    Bool.and_eq_true, decide_eq_true_eq, Bool.not_eq_true', not_or, not_and]
  constructor
  · intro h
    exact ⟨fun tag member => (h tag member).1, fun void tag member result =>
      (h tag member).2 result void⟩
  · rintro ⟨named, results⟩ tag member
    exact ⟨named tag member, fun result void => results void tag member result⟩

end Result

section Throws

theorem unusedThrows_eq_nil_iff (strict : settings.IsStrict) :
    unusedThrows resolver settings signature comment = [] ↔
      (settledThrows resolver signature comment).1 = [] := by
  simp [unusedThrows, isTolerated, strict.undeclaredUnchecked]

theorem missingThrows_eq_nil_iff (strict : settings.IsStrict) (own : isInherited comment = false) :
    missingThrows resolver settings signature comment = [] ↔
      ∀ d ∈ (settledThrows resolver signature comment).2, d.found = true := by
  simp [missingThrows, strict.missingThrows, own, List.filter_eq_nil_iff]

/-- Nothing is reported on exceptions exactly if every tag has a match and every declared exception
is found in the end. -/
theorem throws_clean_iff (strict : settings.IsStrict) (own : isInherited comment = false) :
    (unusedThrows resolver settings signature comment = [] ∧
        missingThrows resolver settings signature comment = []) ↔
      ∃ settled, matchAll resolver signature.scope (tagsOf .throws comment)
          (declaredExceptions resolver signature) = some settled ∧
        ∀ d ∈ settled, d.found = true := by
  rw [unusedThrows_eq_nil_iff strict, missingThrows_eq_nil_iff strict own]
  simp only [matchAll_eq_some_iff, settledThrows, throwsTags_eq]
  obtain ⟨unmatched, declared⟩ := settleThrows resolver signature.scope (tagsOf .throws comment)
    (declaredExceptions resolver signature)
  constructor
  · rintro ⟨matched, found⟩
    exact ⟨declared, Prod.ext matched rfl, found⟩
  · rintro ⟨settled, equal, found⟩
    obtain ⟨rfl, rfl⟩ := Prod.mk.inj equal
    exact ⟨rfl, found⟩

end Throws

/-- Under settings that forgive nothing, the comment of a declaration that is checked has no
findings exactly if it is complete. -/
theorem verify_eq_nil_iff_complete (strict : settings.IsStrict) (resolver : Resolver α)
    (inScope : settings.inScope signature.visibility = true)
    (noMarker : ∀ tag ∈ comment.tags, tag.kind ≠ .inheritDoc) :
    verify settings resolver signature (some comment) = [] ↔
      (((tagsOf .param comment).map Tag.argument : Multiset (Option String)) =
          ((signature.parameters ++ signature.typeParameters).map fun p => some p.tagName)) ∧
      (tagsOf .result comment).length = (if signature.returnsValue then 1 else 0) ∧
      (∀ tag ∈ comment.tags, tag.kind ≠ .nameless) ∧
      ∃ settled, matchAll resolver signature.scope (tagsOf .throws comment)
          (declaredExceptions resolver signature) = some settled ∧
        ∀ d ∈ settled, d.found = true := by
  have own := isInherited_eq_false noMarker
  have notLone (tag : Tag) (single : comment.tags = [tag]) : tag.kind ≠ .inheritDoc :=
    noMarker tag (by simp [single])
  rw [verify_eq_findings inScope notLone, Multiset.coe_eq_coe, ← params_clean_iff strict own,
    ← result_clean_iff strict own, ← throws_clean_iff strict own]
  simp only [findings, List.append_eq_nil_iff, mixedStyle_eq_nil strict, strayTags_eq_nil_iff,
    and_true]
  tauto

/-- A generic method with two exceptions. -/
def copySignature : Signature where
  name := "copy"
  position := ⟨9, 5⟩
  parameters := [⟨"from", false, none, none⟩, ⟨"to", false, none, none⟩]
  typeParameters := [⟨"T", true, none, none⟩]
  exceptions := [⟨"java.io.IOException", none, none⟩, ⟨"IllegalStateException", none, none⟩]
  returnsValue := true

/-- A complete comment for it, in an order of its own; the first exception is documented by one
that extends it. -/
def copyComment : Comment where
  lines :=
    ["/** Copies what there is.", " * @param to the target", " * @param <T> what is copied",
     " * @return the number of copies", " * @param from the source",
     " * @throws java.io.FileNotFoundException if there is no source",
     " * @exception java.lang.IllegalStateException if it is closed */"]

theorem tags_copyComment :
    copyComment.tags =
      [⟨.param, "param", ⟨2, 4⟩, some "to", "the target"⟩,
       ⟨.param, "param", ⟨3, 4⟩, some "<T>", "what is copied"⟩,
       ⟨.result, "return", ⟨4, 4⟩, none, "the number of copies"⟩,
       ⟨.param, "param", ⟨5, 4⟩, some "from", "the source"⟩,
       ⟨.throws, "throws", ⟨6, 4⟩, some "java.io.FileNotFoundException", "if there is no source"⟩,
       ⟨.throws, "exception", ⟨7, 4⟩, some "java.lang.IllegalStateException",
         "if it is closed"⟩] := by
  decide +kernel

theorem verify_copy_eq_nil :
    Settings.IsStrict {} ∧ Settings.inScope {} copySignature.visibility = true ∧
      (∀ tag ∈ copyComment.tags, tag.kind ≠ .inheritDoc) ∧
      verify {} (Settings.classTable {}).resolver copySignature (some copyComment) = [] := by
  have strict : Settings.IsStrict {} := ⟨rfl, rfl, rfl, rfl, rfl, rfl, rfl, rfl⟩
  have inScope : Settings.inScope {} copySignature.visibility = true := rfl
  have noMarker : ∀ tag ∈ copyComment.tags, tag.kind ≠ .inheritDoc := by
    rw [tags_copyComment]
    decide
  refine ⟨strict, inScope, noMarker, ?_⟩
  rw [verify_eq_nil_iff_complete strict _ inScope noMarker]
  simp only [tagsOf, tags_copyComment]
  refine ⟨by decide +kernel, rfl, by decide, ?_⟩
  exact ⟨_, Option.eq_some_of_isSome (by decide +kernel), by decide +kernel⟩

end Verification

end JavadocAudit

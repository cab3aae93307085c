import JavadocAudit.Proofs.Verification.Exemption
import JavadocAudit.Proofs.Verification.Fate
import JavadocAudit.Proofs.Verification.Inherited

/-!
# Parameters by counting

Parameters take tags one after the other, and each takes a tag away from those behind it. What comes
of this can be told without the run, by counting names: of the parameters with one name, as many are
tagged as there are tags for the name, the first ones in the declaration; of the tags for one name,
as many are of use as there are parameters with the name, the first ones in the comment.

The count that carries the proof is that of the tags that are left. After some parameters there are
as many tags for a name as in the comment, less the parameters with that name, or none.
-/

namespace JavadocAudit.Verification

variable {α : Type} {settings : Settings} {resolver : Resolver α} {signature : Signature}
variable {comment : Comment}

def tagCount (comment : Comment) (name : String) : Nat :=
  comment.tags.countP fun tag => tag.kind = .param && tag.argument = some name

def nameCount (params : List Parameter) (name : String) : Nat := params.countP (·.tagName = name)

section Counted

variable (settings : Settings) (signature : Signature) (comment : Comment)

/-- The treatment of a parameter with an index: it is tagged if there are more tags for its name
than parameters with the name before it, and it can be narrated only if it is not tagged. -/
def countedTreatment (index : Nat) (parameter : Parameter) : Treatment :=
  if nameCount ((documentedParams settings signature).take index) parameter.tagName <
      tagCount comment parameter.tagName then .tagged
  else if settings.allowNarrativeParams = true ∧
      parameter.tagName ∈ comment.mentioned (documentedParams settings signature) then .narrated
  else .missing

/-- The parameters that have to be described, each with its treatment. -/
def countedParams : List (Parameter × Treatment) :=
  (documentedParams settings signature).mapIdx fun index parameter =>
    (parameter, countedTreatment settings signature comment index parameter)

end Counted

section Run

variable (isNarrated : Parameter → Bool)

/-- A run over parameters continues with the tags that the first ones have left. -/
theorem settleParams_append (first second : List Parameter) (tags : List Tag) :
    settleParams isNarrated (first ++ second) tags =
      ((settleParams isNarrated first tags).1 ++
          (settleParams isNarrated second (settleParams isNarrated first tags).2).1,
        (settleParams isNarrated second (settleParams isNarrated first tags).2).2) := by
  induction first generalizing tags with
  | nil => rfl
  | cons p rest ih =>
      rw [List.cons_append]
      cases described : tags.any (·.describes p) with
      | true => simp [settleParams_cons_of_described described, ih]
      | false => simp [settleParams_cons_of_not_described described, ih]

theorem countP_describes (tags : List Tag) (p : Parameter) :
    tags.countP (·.describes p) = (tags.map Tag.argument).count (some p.tagName) := by
  rw [List.count, List.countP_map]
  rfl

/-- A parameter that takes a tag leaves one less for its name, and as many for any other. -/
theorem countP_describes_eraseP_tags (tags : List Tag) (taken p : Parameter) :
    (tags.eraseP (·.describes taken)).countP (·.describes p) =
      tags.countP (·.describes p) - if taken.tagName = p.tagName then 1 else 0 := by
  rw [countP_describes, map_argument_eraseP, List.count_erase, ← countP_describes]
  simp

/-- The tags that are left for a name. -/
theorem countP_describes_left (params : List Parameter) (tags : List Tag) (p : Parameter) :
    (settleParams isNarrated params tags).2.countP (·.describes p) =
      tags.countP (·.describes p) - nameCount params p.tagName := by
  induction params generalizing tags with
  | nil => rfl
  | cons first rest ih =>
      have count : nameCount (first :: rest) p.tagName =
          nameCount rest p.tagName + if first.tagName = p.tagName then 1 else 0 := by
        simp [nameCount, List.countP_cons]
      cases described : tags.any (·.describes first) with
      | true =>
          rw [settleParams_cons_of_described described, ih, countP_describes_eraseP_tags, count]
          omega
      | false =>
          rw [settleParams_cons_of_not_described described, ih, count]
          by_cases same : first.tagName = p.tagName
          · -- There is no tag for the name, so there is none to be taken.
            have none_left : tags.countP (·.describes p) = 0 := by
              simpa [Tag.describes, same, List.countP_eq_zero] using described
            omega
          · simp [same]

/-- What becomes of a parameter depends on how many of its name stand before it. -/
theorem getElem?_settleParams (earlier later : List Parameter) (p : Parameter) (tags : List Tag) :
    (settleParams isNarrated (earlier ++ p :: later) tags).1[earlier.length]? =
      some (p, if nameCount earlier p.tagName < tags.countP (·.describes p) then .tagged
        else if isNarrated p then .narrated else .missing) := by
  have length : (settleParams isNarrated earlier tags).1.length = earlier.length := by
    rw [← List.length_map Prod.fst, map_fst_settleParams]
  have left := countP_describes_left isNarrated earlier tags p
  rw [settleParams_append, List.getElem?_append_right (Nat.le_of_eq length), length, Nat.sub_self]
  cases described : (settleParams isNarrated earlier tags).2.any (·.describes p) with
  | true =>
      have some_left : 0 < (settleParams isNarrated earlier tags).2.countP (·.describes p) :=
        List.countP_pos_iff.mpr (List.any_eq_true.mp described)
      have enough : nameCount earlier p.tagName < tags.countP (·.describes p) := by omega
      rw [settleParams_cons_of_described described, if_pos enough]
      rfl
  | false =>
      have none_left : (settleParams isNarrated earlier tags).2.countP (·.describes p) = 0 := by
        simpa [List.countP_eq_zero] using described
      have usedUp : ¬ nameCount earlier p.tagName < tags.countP (·.describes p) := by omega
      rw [settleParams_cons_of_not_described described, if_neg usedUp]
      rfl

theorem settleParams_fst (params : List Parameter) (tags : List Tag) :
    (settleParams isNarrated params tags).1 =
      params.mapIdx fun index p =>
        (p, if nameCount (params.take index) p.tagName < tags.countP (·.describes p) then .tagged
          else if isNarrated p then .narrated else .missing) := by
  apply List.ext_getElem?
  intro index
  rw [List.getElem?_mapIdx]
  by_cases bound : index < params.length
  · have here := getElem?_settleParams isNarrated (params.take index)
      (params.drop (index + 1)) params[index] tags
    rw [← List.drop_eq_getElem_cons bound, List.take_append_drop, List.length_take,
      Nat.min_eq_left (Nat.le_of_lt bound)] at here
    rw [here, List.getElem?_eq_getElem bound]
    rfl
  · have length : (settleParams isNarrated params tags).1.length = params.length := by
      rw [← List.length_map Prod.fst, map_fst_settleParams]
    rw [List.getElem?_eq_none (by omega), List.getElem?_eq_none (by omega)]
    rfl

end Run

section Verdict

/-- No tag for a parameter that has to be described is exempt, so all of them count. -/
theorem countP_describes_paramTags {p : Parameter}
    (member : p ∈ documentedParams settings signature) :
    (paramTags settings comment).countP (·.describes p) = tagCount comment p.tagName := by
  have needed := isUnusedParam_tagName_of_mem_documentedParams member
  rw [paramTags, List.countP_filter, tagCount]
  refine List.countP_congr fun tag _ => ?_
  simp only [Bool.and_eq_true, decide_eq_true_eq, describes_iff]
  constructor
  · rintro ⟨own, kind, -⟩
    exact ⟨kind, own⟩
  · rintro ⟨kind, own⟩
    exact ⟨own, kind, by simp [own, needed]⟩

theorem settledParams_fst_eq (settings : Settings) (signature : Signature) (comment : Comment) :
    (settledParams settings signature comment).1 = countedParams settings signature comment := by
  rw [settledParams, settleParams_fst, countedParams]
  apply List.ext_getElem?
  intro index
  rw [List.getElem?_mapIdx, List.getElem?_mapIdx]
  cases here : (documentedParams settings signature)[index]? with
  | none => rfl
  | some p =>
      rw [Option.map_some, Option.map_some,
        countP_describes_paramTags (List.mem_of_getElem? here)]
      simp [countedTreatment, isNarrated]

theorem missingParams_eq_counted (settings : Settings) (signature : Signature)
    (comment : Comment) :
    missingParams settings signature comment =
      if settings.allowMissingParams = true ∨ comment.HasMarker then []
      else ((countedParams settings signature comment).filter (·.2 = .missing)).map
        fun counted => expectedParam signature counted.1 := by
  have excused : (settings.allowMissingParams || isInherited comment) = true ↔
      settings.allowMissingParams = true ∨ comment.HasMarker := by
    rw [Bool.or_eq_true, isInherited_iff]
  rw [missingParams, settledParams_fst_eq]
  simp only [excused]

theorem mixedStyle_eq_counted (settings : Settings) (signature : Signature) (comment : Comment) :
    mixedStyle settings signature comment =
      if (∃ counted ∈ countedParams settings signature comment, counted.2 = .tagged) ∧
          ∃ counted ∈ countedParams settings signature comment, counted.2 = .narrated then
        [⟨.mixedStyle, comment.start, []⟩]
      else [] := by
  simp only [mixedStyle, settledParams_fst_eq, Bool.and_eq_true, List.any_eq_true,
    decide_eq_true_eq]

/-- Which parameters are tagged, narrated or missing is told by counting names, and so is which of
them are reported, whether the styles are mixed, and which tags are of no use: a tag is one too many
if as many tags for its name stand before it as there are parameters with the name. -/
theorem params_verdict_by_counting (resolver : Resolver α)
    (inScope : settings.inScope signature.visibility = true)
    (notLone : ∀ tag, comment.tags = [tag] → tag.kind ≠ .inheritDoc) :
    (settledParams settings signature comment).1 = countedParams settings signature comment ∧
    (verify settings resolver signature (some comment)).filter (·.kind = .expectedParam) =
      (if settings.allowMissingParams = true ∨ comment.HasMarker then []
      else ((countedParams settings signature comment).filter (·.2 = .missing)).map
        fun counted => expectedParam signature counted.1) ∧
    (verify settings resolver signature (some comment)).filter (·.kind = .mixedStyle) =
      (if (∃ counted ∈ countedParams settings signature comment, counted.2 = .tagged) ∧
          ∃ counted ∈ countedParams settings signature comment, counted.2 = .narrated then
        [⟨.mixedStyle, comment.start, []⟩]
      else []) ∧
    (verify settings resolver signature (some comment)).filter (reportsUnused comment .param) =
      (Tag.select (isSurplusParam settings signature) [] comment.tags).map Tag.unused := by
  rw [verify_eq_findings inScope notLone, filter_expectedParam_findings,
    filter_mixedStyle_findings, filter_reportsUnused_param, unusedParams_eq_select]
  exact ⟨settledParams_fst_eq settings signature comment,
    missingParams_eq_counted settings signature comment,
    mixedStyle_eq_counted settings signature comment, rfl⟩

/-- Two parameters of one name, a type parameter whose name is no name of a value parameter, and
names that need no description. -/
def mergeSignature : Signature where
  name := "merge"
  position := ⟨9, 3⟩
  parameters :=
    [⟨"x", false, some 9, some 14⟩, ⟨"_u", false, none, none⟩, ⟨"y", false, none, none⟩,
      ⟨"x", false, none, none⟩, ⟨"z", false, some 10, none⟩]
  typeParameters := [⟨"T", true, none, none⟩, ⟨"_V", true, none, none⟩]

def mergeComment : Comment where
  lines :=
    ["/** Merges Y.", " * @param x once", " * @param <_V> ignored", " * @param x twice",
      " * @param T no brackets", " * @param x thrice", " * @param <T> type */"]

def mergeSettings : Settings := { unusedParams := some underscored, allowNarrativeParams := true }

theorem mergeComment_counted :
    mergeSettings.inScope mergeSignature.visibility = true ∧
      loneInheritDoc? mergeComment.tags = none ∧
      (settledParams mergeSettings mergeSignature mergeComment).1.map Prod.snd =
        [.tagged, .narrated, .tagged, .missing, .tagged] ∧
      (verify mergeSettings (ClassTable.withStandard []).resolver mergeSignature
          (some mergeComment)).filter (·.kind = .expectedParam) =
        [⟨.expectedParam, ⟨10, 3⟩, ["@param", "z"]⟩] ∧
      (verify mergeSettings (ClassTable.withStandard []).resolver mergeSignature
          (some mergeComment)).filter (·.kind = .mixedStyle) = [⟨.mixedStyle, ⟨1, 1⟩, []⟩] ∧
      (verify mergeSettings (ClassTable.withStandard []).resolver mergeSignature
          (some mergeComment)).filter (reportsUnused mergeComment .param) =
        [⟨.unusedTag, ⟨5, 4⟩, ["@param", "T"]⟩, ⟨.unusedTag, ⟨6, 4⟩, ["@param", "x"]⟩] := by
  have inScope : mergeSettings.inScope mergeSignature.visibility = true := by decide
  have notLone : loneInheritDoc? mergeComment.tags = none := by decide +kernel
  obtain ⟨settled, missing, mixed, unused⟩ := params_verdict_by_counting
    (ClassTable.withStandard []).resolver inScope (loneInheritDoc?_eq_none_iff.mp notLone)
  refine ⟨inScope, notLone, ?_, missing.trans ?_, mixed.trans ?_, unused.trans ?_⟩
  · rw [settled]
    decide +kernel
  · decide +kernel
  · decide +kernel
  · decide +kernel

end Verdict

end JavadocAudit.Verification

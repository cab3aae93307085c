import JavadocAudit.Verification
import Mathlib.Data.List.DropRight

/-!
# Settling tags against parameters

A type parameter stands in angle brackets in tags, and whether a name needs a description is asked
without its brackets. So the answer is the same for a parameter and for the name that its tags have.

Every parameter takes the first tag for its name that is left. Only names are compared, so the same
tags are left if instead every tag, one after the other, takes the first parameter it describes.
That view follows the order of the comment, and it gives the two facts used below: no tag is left
and no parameter is without a tag exactly if the names agree as multisets, and a tag is left exactly
if the parameters of its name have run out before it.
-/

namespace JavadocAudit

namespace Parameter

/-- An angle bracket of either side. -/
def isBracket (c : Char) : Bool := c = '<' || c = '>'

theorem toList_stripBrackets (s : String) :
    (stripBrackets s).toList = (s.toList.dropWhile isBracket).rdropWhile isBracket :=
  String.toList_ofList

/-- More brackets around a text are stripped with the others. -/
theorem stripBrackets_enclosed {front back : List Char}
    (opens : ∀ c ∈ front, isBracket c = true) (closes : ∀ c ∈ back, isBracket c = true)
    (s : String) :
    stripBrackets (String.ofList (front ++ s.toList ++ back)) = stripBrackets s := by
  rw [← String.toList_inj, toList_stripBrackets, toList_stripBrackets, String.toList_ofList,
    List.append_assoc, List.dropWhile_append_of_pos opens, List.dropWhile_append,
    List.dropWhile_eq_nil_iff.mpr closes]
  split
  · next empty => rw [List.isEmpty_iff.mp empty]
  · have reversed : ∀ c ∈ back.reverse, isBracket c = true :=
      fun c member => closes c (List.mem_reverse.mp member)
    rw [List.rdropWhile, List.reverse_append, List.dropWhile_append_of_pos reversed,
      ← List.rdropWhile]

/-- Nothing but brackets is stripped. -/
theorem exists_brackets_around (s : String) :
    ∃ front back, (∀ c ∈ front, isBracket c = true) ∧ (∀ c ∈ back, isBracket c = true) ∧
      s.toList = front ++ (stripBrackets s).toList ++ back := by
  refine ⟨s.toList.takeWhile isBracket, (s.toList.dropWhile isBracket).rtakeWhile isBracket,
    List.all_eq_true.mp List.all_takeWhile, fun c => List.mem_rtakeWhile_imp, ?_⟩
  rw [toList_stripBrackets, List.append_assoc, List.rdropWhile_append_rtakeWhile,
    List.takeWhile_append_dropWhile]

theorem stripBrackets_eq_self {s : String} (plain : ∀ c ∈ s.toList, isBracket c = false) :
    stripBrackets s = s := by
  obtain ⟨front, back, opens, closes, split⟩ := exists_brackets_around s
  have nothing {cs : List Char} (brackets : ∀ c ∈ cs, isBracket c = true) (inside : cs ⊆ s.toList) :
      cs = [] := by
    refine List.eq_nil_iff_forall_not_mem.mpr fun c member => ?_
    have := plain c (inside member)
    rw [brackets c member] at this
    cases this
  have noFront : front = [] := nothing opens (by simp [split])
  have noBack : back = [] := nothing closes (by simp [split])
  rw [noFront, noBack, List.nil_append, List.append_nil, String.toList_inj] at split
  exact split.symm

theorem stripBrackets_stripBrackets (s : String) :
    stripBrackets (stripBrackets s) = stripBrackets s := by
  obtain ⟨front, back, opens, closes, split⟩ := exists_brackets_around s
  have enclosed := stripBrackets_enclosed opens closes (stripBrackets s)
  rw [← split, String.ofList_toList] at enclosed
  exact enclosed.symm

/-- The brackets that a type parameter has in tags are stripped off again. -/
theorem stripBrackets_tagName (p : Parameter) : stripBrackets p.tagName = stripBrackets p.name := by
  unfold tagName
  split
  · have text : "<" ++ p.bareName ++ ">" = String.ofList (['<'] ++ p.bareName.toList ++ ['>']) := by
      rw [← String.toList_inj]
      simp
    rw [text, stripBrackets_enclosed (by simp [isBracket]) (by simp [isBracket]), bareName,
      stripBrackets_stripBrackets]
  · rfl

end Parameter

theorem Settings.isUnusedParam_tagName (settings : Settings) (p : Parameter) :
    settings.isUnusedParam p.tagName = settings.isUnusedParam p.name := by
  rw [isUnusedParam, Parameter.stripBrackets_tagName, isUnusedParam]

namespace Verification

variable {isNarrated : Parameter → Bool} {p : Parameter} {rest params : List Parameter}
variable {tag : Tag} {tags : List Tag}

@[simp] theorem settleParams_nil : settleParams isNarrated [] tags = ([], tags) := rfl

theorem settleParams_cons_of_described (h : tags.any (·.describes p) = true) :
    settleParams isNarrated (p :: rest) tags =
      ((p, .tagged) :: (settleParams isNarrated rest (tags.eraseP (·.describes p))).1,
        (settleParams isNarrated rest (tags.eraseP (·.describes p))).2) := by
  rw [settleParams, if_pos h]

theorem settleParams_cons_of_not_described (h : tags.any (·.describes p) = false) :
    settleParams isNarrated (p :: rest) tags =
      ((p, if isNarrated p then .narrated else .missing) :: (settleParams isNarrated rest tags).1,
        (settleParams isNarrated rest tags).2) := by
  rw [settleParams, if_neg (by simp [h])]

theorem settleParams_cons (isNarrated : Parameter → Bool) (p : Parameter) (params : List Parameter)
    (tags : List Tag) :
    settleParams isNarrated (p :: params) tags =
      let treatment : Treatment :=
        if tags.any (·.describes p) then .tagged else if isNarrated p then .narrated else .missing
      let later := settleParams isNarrated params (tags.eraseP (·.describes p))
      ((p, treatment) :: later.1, later.2) := by
  by_cases described : tags.any (·.describes p) = true
  · rw [settleParams_cons_of_described described]
    simp [described]
  · have undescribed := Bool.eq_false_iff.mpr described
    rw [settleParams_cons_of_not_described undescribed,
      List.eraseP_of_forall_not (by simpa using described)]
    simp [undescribed]

/-- Every parameter is settled, in order. -/
theorem map_fst_settleParams (isNarrated : Parameter → Bool) (params : List Parameter)
    (tags : List Tag) : (settleParams isNarrated params tags).1.map Prod.fst = params := by
  induction params generalizing tags with
  | nil => rfl
  | cons p rest ih =>
      cases described : tags.any (·.describes p) with
      | true => rw [settleParams_cons_of_described described, List.map_cons, ih]
      | false => rw [settleParams_cons_of_not_described described, List.map_cons, ih]

theorem describes_iff : tag.describes p = true ↔ tag.argument = some p.tagName := by
  simp [Tag.describes]

/-- Taking a tag out takes its name out of the names. -/
theorem map_argument_eraseP (p : Parameter) (tags : List Tag) :
    (tags.eraseP (·.describes p)).map Tag.argument =
      (tags.map Tag.argument).erase (some p.tagName) := by
  rw [List.erase_eq_eraseP', List.eraseP_map]
  rfl

theorem any_describes_iff :
    tags.any (·.describes p) = true ↔ some p.tagName ∈ tags.map Tag.argument := by
  simp only [List.any_eq_true, describes_iff, List.mem_map]

/-- Every parameter has a tag and every tag a parameter exactly if the tags name the parameters,
each as often as it is there. -/
theorem settleParams_complete_iff (isNarrated : Parameter → Bool) (params : List Parameter)
    (tags : List Tag) :
    ((∀ settled ∈ (settleParams isNarrated params tags).1, settled.2 = .tagged) ∧
        (settleParams isNarrated params tags).2 = []) ↔
      (tags.map Tag.argument).Perm (params.map fun p => some p.tagName) := by
  induction params generalizing tags with
  | nil => simp [List.perm_nil]
  | cons p rest ih =>
      rw [List.map_cons, List.perm_comm, List.cons_perm_iff_perm_erase, List.perm_comm,
        ← any_describes_iff, ← map_argument_eraseP, ← ih]
      by_cases h : tags.any (·.describes p) = true
      · rw [settleParams_cons_of_described h]
        simp [h]
      · have h' : tags.any (·.describes p) = false := by simpa using h
        rw [settleParams_cons_of_not_described h']
        have hne : (if isNarrated p then Treatment.narrated else .missing) ≠ .tagged := by
          split <;> simp
        simp [h', hne]

/-- Only the names that tags have are compared, and how often. -/
theorem settleParams_congr (isNarrated : Parameter → Bool) (params : List Parameter)
    {tags tags' : List Tag} (names : (tags.map Tag.argument).Perm (tags'.map Tag.argument)) :
    (settleParams isNarrated params tags).1 = (settleParams isNarrated params tags').1 ∧
      ((settleParams isNarrated params tags).2.map Tag.argument).Perm
        ((settleParams isNarrated params tags').2.map Tag.argument) := by
  induction params generalizing tags tags' with
  | nil => exact ⟨rfl, names⟩
  | cons p rest ih =>
      have same : tags.any (·.describes p) = tags'.any (·.describes p) := by
        rw [Bool.eq_iff_iff, any_describes_iff, any_describes_iff, names.mem_iff]
      cases described : tags.any (·.describes p) with
      | true =>
          have fewer : ((tags.eraseP (·.describes p)).map Tag.argument).Perm
              ((tags'.eraseP (·.describes p)).map Tag.argument) := by
            rw [map_argument_eraseP, map_argument_eraseP]
            exact names.erase _
          obtain ⟨settled, left⟩ := ih fewer
          rw [settleParams_cons_of_described described,
            settleParams_cons_of_described (same ▸ described), settled]
          exact ⟨rfl, left⟩
      | false =>
          obtain ⟨settled, left⟩ := ih names
          rw [settleParams_cons_of_not_described described,
            settleParams_cons_of_not_described (same ▸ described), settled]
          exact ⟨rfl, left⟩

/-- With more tags and more running text, no more parameters are missing. -/
theorem settleParams_missing_sublist {isNarrated isNarrated' : Parameter → Bool}
    (narrated : ∀ p, isNarrated p = true → isNarrated' p = true) (params : List Parameter)
    {tags tags' : List Tag} (names : (tags.map Tag.argument).Sublist (tags'.map Tag.argument)) :
    ((settleParams isNarrated' params tags').1.filter (·.2 = .missing)).Sublist
      ((settleParams isNarrated params tags).1.filter (·.2 = .missing)) := by
  induction params generalizing tags tags' with
  | nil => exact List.Sublist.refl _
  | cons p rest ih =>
      have fewer : ((tags.eraseP (·.describes p)).map Tag.argument).Sublist
          ((tags'.eraseP (·.describes p)).map Tag.argument) := by
        rw [map_argument_eraseP, map_argument_eraseP]
        exact names.erase _
      cases described : tags.any (·.describes p) with
      | true =>
          have described' : tags'.any (·.describes p) = true :=
            any_describes_iff.mpr (names.subset (any_describes_iff.mp described))
          rw [settleParams_cons_of_described described, settleParams_cons_of_described described']
          exact ih fewer
      | false =>
          rw [settleParams_cons_of_not_described described]
          cases described' : tags'.any (·.describes p) with
          | true =>
              have untouched : tags.eraseP (·.describes p) = tags :=
                List.eraseP_of_forall_not (by simpa using described)
              rw [untouched] at fewer
              rw [settleParams_cons_of_described described']
              exact (ih fewer).trans (List.Sublist.filter _ (List.sublist_cons_self ..))
          | false =>
              rw [settleParams_cons_of_not_described described']
              cases here : isNarrated p with
              | true => simpa [narrated p here] using ih names
              | false =>
                cases isNarrated' p with
                | true => exact (ih names).trans (List.Sublist.filter _ (List.sublist_cons_self ..))
                | false => exact (ih names).cons_cons _

/-- Tags are only taken out. -/
theorem settleParams_left_sublist (isNarrated : Parameter → Bool) (params : List Parameter)
    (tags : List Tag) : (settleParams isNarrated params tags).2.Sublist tags := by
  induction params generalizing tags with
  | nil => exact List.Sublist.refl tags
  | cons p rest ih =>
      cases described : tags.any (·.describes p) with
      | true =>
          rw [settleParams_cons_of_described described]
          exact (ih _).trans List.eraseP_sublist
      | false =>
          rw [settleParams_cons_of_not_described described]
          exact ih tags

/-- If there are no tags, none is left. -/
theorem settleParams_left_nil : (settleParams isNarrated params []).2 = [] := by
  induction params with
  | nil => rfl
  | cons p rest ih => rw [settleParams_cons_of_not_described rfl, ih]

/-- A parameter that a tag does not describe leaves the tag where it is. -/
theorem eraseP_cons_of_not_describes (h : tag.describes p = false) :
    (tag :: tags).eraseP (·.describes p) = tag :: tags.eraseP (·.describes p) :=
  List.eraseP_cons_of_neg (by simp [h])

/-- The first tag takes the first parameter it describes. -/
theorem settleParams_left_cons_of_describes (h : params.any (tag.describes ·) = true) :
    (settleParams isNarrated params (tag :: tags)).2 =
      (settleParams isNarrated (params.eraseP (tag.describes ·)) tags).2 := by
  induction params generalizing tags with
  | nil => simp at h
  | cons p rest ih =>
      by_cases hp : tag.describes p = true
      · rw [settleParams_cons_of_described (by simp [hp])]
        simp [hp]
      · have hp' : tag.describes p = false := by simpa using hp
        have hrest : rest.any (tag.describes ·) = true := by simpa [hp'] using h
        rw [List.eraseP_cons_of_neg hp]
        by_cases ht : tags.any (·.describes p) = true
        · rw [settleParams_cons_of_described (by simp [ht]), settleParams_cons_of_described ht,
            eraseP_cons_of_not_describes hp']
          exact ih hrest
        · have ht' : tags.any (·.describes p) = false := by simpa using ht
          rw [settleParams_cons_of_not_described (by simp [hp', ht']),
            settleParams_cons_of_not_described ht']
          exact ih hrest

/-- A first tag that describes no parameter is left. -/
theorem settleParams_left_cons_of_not_describes (h : params.any (tag.describes ·) = false) :
    (settleParams isNarrated params (tag :: tags)).2 =
      tag :: (settleParams isNarrated params tags).2 := by
  induction params generalizing tags with
  | nil => rfl
  | cons p rest ih =>
      obtain ⟨hp, hrest⟩ : tag.describes p = false ∧ rest.any (tag.describes ·) = false := by
        simpa using h
      by_cases ht : tags.any (·.describes p) = true
      · rw [settleParams_cons_of_described (by simp [ht]), settleParams_cons_of_described ht,
          eraseP_cons_of_not_describes hp]
        exact ih hrest
      · have ht' : tags.any (·.describes p) = false := by simpa using ht
        rw [settleParams_cons_of_not_described (by simp [hp, ht']),
          settleParams_cons_of_not_described ht']
        exact ih hrest

end Verification

end JavadocAudit

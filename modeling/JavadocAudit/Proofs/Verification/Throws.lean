import JavadocAudit.Proofs.ThrowsMatch
import JavadocAudit.Verification

/-!
# Settling tags against exceptions

Tags are settled in the order of the comment, and what a tag matches depends on what the tags before
it have matched. A run over some tags is therefore the run over the first ones followed by the run
over the others, from the exceptions as the first ones have left them. `matchAll` is the run that
gives up at the first tag without a match; it comes to an end exactly if no tag is left over.

A run changes nothing but marks. So whether a tag has a match at all does not depend on the tags
before it, and the tags that are left over are known without running through them.
-/

namespace JavadocAudit.Verification

variable {α : Type} {resolver : Resolver α} {scope : Option NameScope}
variable {tag : Tag} {tags : List Tag} {declared : List (Declared α)}

/-- The place of the declared exception that a tag belongs to. -/
def tagMatch? (resolver : Resolver α) (scope : Option NameScope) (declared : List (Declared α))
    (tag : Tag) : Option Nat :=
  Declared.match? resolver (documentedName tag)
    (resolver.resolveQuietly (documentedName tag) scope) declared

/-- The declared exceptions once every tag, one after the other, has marked the one it belongs to;
`none` if some tag belongs to none. -/
def matchAll (resolver : Resolver α) (scope : Option NameScope) (tags : List Tag)
    (declared : List (Declared α)) : Option (List (Declared α)) :=
  tags.foldlM
    (fun declared tag =>
      (tagMatch? resolver scope declared tag).map (Declared.markFound declared))
    declared

@[simp] theorem settleThrows_nil : settleThrows resolver scope [] declared = ([], declared) := rfl

theorem settleThrows_cons_of_match {place : Nat}
    (h : tagMatch? resolver scope declared tag = some place) :
    settleThrows resolver scope (tag :: tags) declared =
      settleThrows resolver scope tags (Declared.markFound declared place) := by
  unfold tagMatch? at h
  simp [settleThrows, h]

theorem settleThrows_cons_of_no_match (h : tagMatch? resolver scope declared tag = none) :
    settleThrows resolver scope (tag :: tags) declared =
      (tag :: (settleThrows resolver scope tags declared).1,
        (settleThrows resolver scope tags declared).2) := by
  unfold tagMatch? at h
  simp [settleThrows, h]

/-- A run over tags continues from where the run over the first ones ends. -/
theorem settleThrows_append (first second : List Tag) (declared : List (Declared α)) :
    settleThrows resolver scope (first ++ second) declared =
      ((settleThrows resolver scope first declared).1 ++
          (settleThrows resolver scope second (settleThrows resolver scope first declared).2).1,
        (settleThrows resolver scope second (settleThrows resolver scope first declared).2).2) := by
  induction first generalizing declared with
  | nil => rfl
  | cons tag rest ih =>
      rw [List.cons_append]
      cases h : tagMatch? resolver scope declared tag with
      | some place => rw [settleThrows_cons_of_match h, settleThrows_cons_of_match h, ih]
      | none => simp [settleThrows_cons_of_no_match h, ih]

/-- All tags have a match exactly if none of them is left over, and the exceptions end up the same
in both runs. -/
theorem matchAll_eq_some_iff {settled : List (Declared α)} :
    matchAll resolver scope tags declared = some settled ↔
      settleThrows resolver scope tags declared = ([], settled) := by
  induction tags generalizing declared with
  | nil => simp [matchAll]
  | cons tag rest ih =>
      cases h : tagMatch? resolver scope declared tag with
      | some place =>
          rw [settleThrows_cons_of_match h, ← ih]
          simp [matchAll, h]
      | none =>
          rw [settleThrows_cons_of_no_match h]
          simp [matchAll, h]

/-- A run over tags changes nothing but marks. -/
theorem map_settleThrows {β : Type} {view : Declared α → β}
    (blind : ∀ d, view { d with found := true } = view d) (tags : List Tag)
    (declared : List (Declared α)) :
    (settleThrows resolver scope tags declared).2.map view = declared.map view := by
  induction tags generalizing declared with
  | nil => rfl
  | cons tag rest ih =>
      cases h : tagMatch? resolver scope declared tag with
      | some place =>
          rw [settleThrows_cons_of_match h, ih]
          exact Declared.map_markFound blind declared place
      | none =>
          rw [settleThrows_cons_of_no_match h]
          exact ih declared

/-- Whether a tag has a match depends on the exceptions that it suits, and not on marks. -/
theorem isNone_tagMatch? (resolver : Resolver α) (scope : Option NameScope)
    (declared : List (Declared α)) (tag : Tag) :
    (tagMatch? resolver scope declared tag).isNone =
      (declared.map (Declared.suits resolver (documentedName tag)
        (resolver.resolveQuietly (documentedName tag) scope))).all (!·) := by
  rw [Bool.eq_iff_iff, Option.isNone_iff_eq_none, tagMatch?, Declared.match?_eq_none_iff]
  simp

/-- The tags before a tag have no say in whether it has a match. -/
theorem isNone_tagMatch?_settleThrows (earlier : List Tag) (declared : List (Declared α))
    (tag : Tag) :
    (tagMatch? resolver scope (settleThrows resolver scope earlier declared).2 tag).isNone =
      (tagMatch? resolver scope declared tag).isNone := by
  rw [isNone_tagMatch?, isNone_tagMatch?, map_settleThrows fun _ => rfl]

/-- The tags that are left over are those without a match among the exceptions as they are
declared. -/
theorem settleThrows_left (tags : List Tag) (declared : List (Declared α)) :
    (settleThrows resolver scope tags declared).1 =
      tags.filter fun tag => (tagMatch? resolver scope declared tag).isNone := by
  induction tags generalizing declared with
  | nil => rfl
  | cons tag rest ih =>
      cases h : tagMatch? resolver scope declared tag with
      | some place =>
          rw [settleThrows_cons_of_match h, ih, List.filter_cons_of_neg (by simp [h])]
          refine List.filter_congr fun other _ => ?_
          rw [isNone_tagMatch?, isNone_tagMatch?, Declared.map_markFound fun _ => rfl]
      | none =>
          rw [settleThrows_cons_of_no_match h, ih, List.filter_cons_of_pos (by simp [h])]

/-- A single exception is found if a tag suits it. -/
theorem settleThrows_singleton (tags : List Tag) (d : Declared α) :
    (settleThrows resolver scope tags [d]).2 =
      [{ d with
        found := d.found || tags.any fun tag =>
          d.suits resolver (documentedName tag)
            (resolver.resolveQuietly (documentedName tag) scope) }] := by
  induction tags generalizing d with
  | nil => simp
  | cons tag rest ih =>
      have single := Declared.match?_singleton resolver (documentedName tag)
        (resolver.resolveQuietly (documentedName tag) scope) d
      cases suits : d.suits resolver (documentedName tag)
          (resolver.resolveQuietly (documentedName tag) scope) with
      | true =>
          rw [suits, if_pos rfl] at single
          rw [settleThrows_cons_of_match single]
          refine (ih { d with found := true }).trans ?_
          simp [suits]
      | false =>
          rw [suits, if_neg Bool.false_ne_true] at single
          rw [settleThrows_cons_of_no_match single]
          simp [suits, ih]

end JavadocAudit.Verification

import JavadocAudit.Proofs.Text.Blank
import JavadocAudit.Tag.Extraction

/-!
# Markers in a text

A marker for inherited text is an at sign and a name in braces, and blanks may stand inside the
braces. The search for markers looks at one place of a text after the other. It finds something
exactly if a marker stands somewhere in the text, and a tail without braces adds nothing to it,
since a marker ends with its brace.
-/

namespace JavadocAudit.Tag

open Text

def IsMarker (cs : List Char) : Prop :=
  ∃ before behind, cs = '\x7b' :: (before ++ '@' :: (inheritName ++ (behind ++ ['\x7d']))) ∧
    (∀ c ∈ before, isBlank c = true) ∧ ∀ c ∈ behind, isBlank c = true

/-- A marker stands somewhere in the text. -/
def HasMarker (cs : List Char) : Prop := ∃ marker, IsMarker marker ∧ marker <:+: cs

variable {cs : List Char} {distance : Nat}

/-- A text starts with a marker whose at sign stands at the given distance. -/
theorem markerStart?_eq_some_iff :
    markerStart? cs = some distance ↔
      ∃ before behind back,
        cs = '\x7b' :: (before ++ '@' :: (inheritName ++ (behind ++ '\x7d' :: back))) ∧
          (∀ c ∈ before, isBlank c = true) ∧ (∀ c ∈ behind, isBlank c = true) ∧
          distance = before.length + 1 := by
  constructor
  · intro h
    unfold markerStart? at h
    split at h
    · next rest =>
        split at h
        · next inner trimmed =>
            split at h
            · next fits =>
                obtain ⟨name, closed⟩ := Bool.and_eq_true_iff.mp fits
                obtain ⟨tail, rfl⟩ : inheritName <+: inner := by simpa using name
                rw [List.drop_left, decide_eq_true_eq] at closed
                obtain ⟨before, split, blank⟩ := exists_blanks_append_trimStart rest
                obtain ⟨behind, split', blank'⟩ := exists_blanks_append_trimStart tail
                obtain ⟨back, brace⟩ := List.head?_eq_some_iff.mp closed
                rw [trimmed] at split
                rw [brace] at split'
                refine ⟨before, behind, back, by rw [split, split'], blank, blank', ?_⟩
                rw [← Option.some.inj h, split]
                simp only [List.length_append, List.length_cons]
                omega
            · cases h
        · cases h
    · cases h
  · rintro ⟨before, behind, back, rfl, blank, blank', rfl⟩
    have sign : trimStart (before ++ '@' :: (inheritName ++ (behind ++ '\x7d' :: back))) =
        '@' :: (inheritName ++ (behind ++ '\x7d' :: back)) := by
      rw [trimStart_blanks_append blank, trimStart_cons_of_not_blank (by decide)]
    have brace : trimStart (behind ++ '\x7d' :: back) = '\x7d' :: back := by
      rw [trimStart_blanks_append blank', trimStart_cons_of_not_blank (by decide)]
    simp only [markerStart?, sign, List.drop_left, brace]
    rw [if_pos (by simp)]
    simp only [List.length_append, List.length_cons, Option.some.injEq]
    omega

theorem isSome_markerStart?_iff :
    (markerStart? cs).isSome = true ↔ ∃ marker, IsMarker marker ∧ marker <+: cs := by
  rw [Option.isSome_iff_exists]
  constructor
  · rintro ⟨distance, found⟩
    obtain ⟨before, behind, back, rfl, blank, blank', -⟩ := markerStart?_eq_some_iff.mp found
    exact ⟨_, ⟨before, behind, rfl, blank, blank'⟩, back, by simp⟩
  · rintro ⟨_, ⟨before, behind, rfl, blank, blank'⟩, back, rfl⟩
    exact ⟨_, markerStart?_eq_some_iff.mpr
      ⟨before, behind, back, by simp, blank, blank', rfl⟩⟩

/-- The search finds nothing exactly if there is no marker in the text. -/
theorem markersFrom_eq_nil_iff (offset : Nat) : markersFrom offset cs = [] ↔ ¬ HasMarker cs := by
  induction cs generalizing offset with
  | nil =>
      refine iff_of_true rfl ?_
      rintro ⟨_, ⟨before, behind, rfl, -⟩, inText⟩
      simp at inText
  | cons c rest ih =>
      have here_or_later : HasMarker (c :: rest) ↔
          (markerStart? (c :: rest)).isSome = true ∨ HasMarker rest := by
        rw [isSome_markerStart?_iff]
        simp only [HasMarker, List.infix_cons_iff, and_or_left, exists_or]
      rw [here_or_later, not_or, markersFrom, ← ih (offset + 1)]
      split
      · next found => simp [found]
      · next none => simp [none]

instance : DecidablePred HasMarker := fun cs =>
  decidable_of_iff (markersFrom 0 cs ≠ []) (by rw [ne_eq, markersFrom_eq_nil_iff, not_not])

section Padding

variable {tail : List Char} (noClosing : '\x7d' ∉ tail)
include noClosing

/-- A marker that a text starts with ends before a tail that has no closing brace. -/
theorem markerStart?_append (cs : List Char) : markerStart? (cs ++ tail) = markerStart? cs := by
  refine Option.ext fun distance => ?_
  rw [markerStart?_eq_some_iff, markerStart?_eq_some_iff]
  constructor
  · rintro ⟨before, behind, back, split, rest⟩
    have closing : cs ++ tail =
        '\x7b' :: (before ++ '@' :: (inheritName ++ behind)) ++ '\x7d' :: back := by
      simpa using split
    obtain ⟨back', inText⟩ := exists_of_append_eq _ closing noClosing
    exact ⟨before, behind, back', by simpa using inText, rest⟩
  · rintro ⟨before, behind, back, rfl, rest⟩
    exact ⟨before, behind, back ++ tail, by simp, rest⟩

/-- A tail without braces adds no markers. -/
theorem markersFrom_append (noOpening : '\x7b' ∉ tail) (offset : Nat) (cs : List Char) :
    markersFrom offset (cs ++ tail) = markersFrom offset cs := by
  induction cs generalizing offset with
  | nil =>
      refine (markersFrom_eq_nil_iff offset).mpr ?_
      rintro ⟨_, ⟨before, behind, rfl, -⟩, inTail⟩
      exact noOpening (inTail.subset List.mem_cons_self)
  | cons c rest ih =>
      have here := markerStart?_append noClosing (c :: rest)
      rw [List.cons_append] at here ⊢
      simp only [markersFrom, here, ih]

end Padding

end JavadocAudit.Tag

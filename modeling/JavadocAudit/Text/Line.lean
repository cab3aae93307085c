/-!
# Lines of a text

A text is read with every kind of line break turned into one, and is then cut at the breaks.
Cutting and joining are inverse to each other, so no character of a text is lost.
-/

namespace JavadocAudit.Text

/-- The text with each carriage return, alone or before a line feed, read as one line feed. -/
def unifyBreaks : List Char → List Char
  | [] => []
  | '\r' :: '\n' :: rest => '\n' :: unifyBreaks rest
  | c :: rest => (if c = '\r' then '\n' else c) :: unifyBreaks rest

/-- What stands between the marks in a list; there is always at least one piece. -/
def cutAt {α : Type} [DecidableEq α] (mark : α) : List α → List (List α)
  | [] => [[]]
  | a :: rest =>
    if a = mark then [] :: cutAt mark rest
    else
      match cutAt mark rest with
      | [] => [[a]]
      | piece :: others => (a :: piece) :: others

/-- The lines of a text, without their line feeds. -/
def splitLines (cs : List Char) : List (List Char) := cutAt '\n' cs

/-- The lines of a text as one text again. -/
def joinLines : List (List Char) → List Char
  | [] => []
  | [line] => line
  | line :: others => line ++ '\n' :: joinLines others

theorem cutAt_ne_nil {α : Type} [DecidableEq α] (mark : α) (as : List α) : cutAt mark as ≠ [] := by
  cases as with
  | nil => simp [cutAt]
  | cons a rest =>
    rw [cutAt]
    split
    · simp
    · split <;> simp

theorem splitLines_ne_nil (cs : List Char) : splitLines cs ≠ [] := cutAt_ne_nil '\n' cs

/-- Joining the lines of a text gives back the text. -/
theorem joinLines_splitLines (cs : List Char) : joinLines (splitLines cs) = cs := by
  unfold splitLines
  induction cs with
  | nil => rfl
  | cons c rest ih =>
    rw [cutAt]
    obtain ⟨line, others, h⟩ := List.exists_cons_of_ne_nil (cutAt_ne_nil '\n' rest)
    rw [h] at ih ⊢
    split
    · subst c
      simp [joinLines, ih]
    · cases others <;> simp_all [joinLines]

end JavadocAudit.Text

import JavadocAudit.Text.Line

/-!
# Cutting a text into lines

The first line of a text ends at the first line feed, and no line has a line feed in it. Lines that
have none are told apart by the line feeds between them, so cutting gives back the lines that a text
was joined from.
-/

namespace JavadocAudit.Text

section Pieces

variable {α : Type} [DecidableEq α] {mark : α}

/-- What stands before the first mark goes to the first piece. -/
theorem cutAt_append_of_not_mem {front rest piece : List α} {others : List (List α)}
    (noMark : mark ∉ front) (pieces : cutAt mark rest = piece :: others) :
    cutAt mark (front ++ rest) = (front ++ piece) :: others := by
  induction front with
  | nil => exact pieces
  | cons a more ih =>
      obtain ⟨different, noMark⟩ := not_or.mp (mt List.mem_cons.mpr noMark)
      rw [List.cons_append, cutAt, if_neg (Ne.symm different), ih noMark]
      rfl

end Pieces

theorem splitLines_cons_newline (rest : List Char) :
    splitLines ('\n' :: rest) = [] :: splitLines rest := rfl

theorem splitLines_cons_of_eq_cons {c : Char} {rest line : List Char} {others : List (List Char)}
    (hc : c ≠ '\n') (lines : splitLines rest = line :: others) :
    splitLines (c :: rest) = (c :: line) :: others := by
  have noFeed : '\n' ∉ [c] := by simpa using Ne.symm hc
  exact cutAt_append_of_not_mem noFeed lines

/-- The first line of a text ends at the first line feed. -/
theorem splitLines_head? (cs : List Char) :
    (splitLines cs)[0]? = some (cs.takeWhile (· ≠ '\n')) := by
  induction cs with
  | nil => rfl
  | cons c rest ih =>
      by_cases hc : c = '\n'
      · simp [hc, splitLines_cons_newline]
      · obtain ⟨line, others, h⟩ := List.exists_cons_of_ne_nil (splitLines_ne_nil rest)
        rw [splitLines_cons_of_eq_cons hc h]
        rw [h] at ih
        simpa [hc] using ih

/-- A character that is no line feed goes to the first line. -/
theorem splitLines_cons_of_ne {c : Char} (hc : c ≠ '\n') (rest : List Char) :
    splitLines (c :: rest) = (c :: rest.takeWhile (· ≠ '\n')) :: (splitLines rest).tail := by
  have first := splitLines_head? rest
  obtain ⟨line, others, h⟩ := List.exists_cons_of_ne_nil (splitLines_ne_nil rest)
  rw [splitLines_cons_of_eq_cons hc h]
  rw [h] at first ⊢
  obtain rfl : line = rest.takeWhile (· ≠ '\n') := by simpa using first
  rfl

/-- No line of a text has a line feed in it. -/
theorem newline_not_mem_of_mem_splitLines {cs line : List Char} (h : line ∈ splitLines cs) :
    '\n' ∉ line := by
  induction cs generalizing line with
  | nil => simp_all [splitLines, cutAt]
  | cons c rest ih =>
      by_cases hc : c = '\n'
      · subst c
        rcases List.mem_cons.mp h with rfl | h
        · simp
        · exact ih h
      · rw [splitLines_cons_of_ne hc] at h
        rcases List.mem_cons.mp h with rfl | h
        · have first : rest.takeWhile (· ≠ '\n') ∈ splitLines rest :=
            List.mem_of_getElem? (splitLines_head? rest)
          simpa [eq_comm, hc] using ih first
        · exact ih (List.mem_of_mem_tail h)

theorem splitLines_of_oneLine {line : List Char} (oneLine : '\n' ∉ line) :
    splitLines line = [line] := by
  induction line with
  | nil => rfl
  | cons c rest ih =>
      obtain ⟨hc, later⟩ : c ≠ '\n' ∧ '\n' ∉ rest := by
        simpa [eq_comm] using oneLine
      exact splitLines_cons_of_eq_cons hc (ih later)

theorem splitLines_append_newline {line : List Char} (oneLine : '\n' ∉ line) (rest : List Char) :
    splitLines (line ++ '\n' :: rest) = line :: splitLines rest := by
  induction line with
  | nil => rfl
  | cons c more ih =>
      obtain ⟨hc, later⟩ : c ≠ '\n' ∧ '\n' ∉ more := by
        simpa [eq_comm] using oneLine
      exact splitLines_cons_of_eq_cons hc (ih later)

/-- Cutting a text gives back the lines it was joined from. -/
theorem splitLines_joinLines {lines : List (List Char)} (nonempty : lines ≠ [])
    (oneLine : ∀ line ∈ lines, '\n' ∉ line) : splitLines (joinLines lines) = lines := by
  induction lines with
  | nil => exact absurd rfl nonempty
  | cons line others ih =>
      have here := oneLine line List.mem_cons_self
      cases others with
      | nil => exact splitLines_of_oneLine here
      | cons next more =>
          rw [joinLines, splitLines_append_newline here,
            ih (by simp) fun line member => oneLine line (List.mem_cons_of_mem _ member)]
          simp

/-- Joining lines puts a line feed between any two of them. -/
theorem intercalate_newline (lines : List (List Char)) :
    ['\n'].intercalate lines = joinLines lines := by
  induction lines with
  | nil => rfl
  | cons line others ih =>
      cases others with
      | nil => exact List.intercalate_singleton
      | cons next more =>
          rw [List.intercalate_cons_cons, ih, List.append_assoc]
          rfl

end JavadocAudit.Text

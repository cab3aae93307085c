import JavadocAudit.Proofs.Text.Word
import JavadocAudit.Text.Blank
import Mathlib.Data.List.DropRight

/-!
# Blanks around a text

Trimming takes blanks away and nothing else, and a text that neither starts nor ends with a blank is
not changed by it. A text is often read with more blanks behind it than were meant, such as the rest
of a line break. They are no part of a word or of anything else that the text starts with, so they
stay behind whatever is cut from its start, until trimming takes them away.
-/

namespace JavadocAudit.Text

variable {cs blanks : List Char} {c : Char}

section Trimming

/-- Trimming takes blanks from the start and nothing else. -/
theorem exists_blanks_append_trimStart (cs : List Char) :
    ∃ blanks, cs = blanks ++ trimStart cs ∧ ∀ c ∈ blanks, isBlank c = true :=
  ⟨cs.takeWhile isBlank, by rw [trimStart, List.takeWhile_append_dropWhile],
    List.all_eq_true.mp List.all_takeWhile⟩

/-- Trimming takes blanks from the end and nothing else. -/
theorem exists_trimEnd_append_blanks (cs : List Char) :
    ∃ blanks, cs = trimEnd cs ++ blanks ∧ ∀ c ∈ blanks, isBlank c = true := by
  obtain ⟨blanks, split, blank⟩ := exists_blanks_append_trimStart cs.reverse
  refine ⟨blanks.reverse, ?_, fun c member => blank c (List.mem_reverse.mp member)⟩
  rw [trimEnd, ← trimStart, ← List.reverse_append, ← split, List.reverse_reverse]

theorem trimStart_blanks_append (blank : ∀ c ∈ blanks, isBlank c = true) (cs : List Char) :
    trimStart (blanks ++ cs) = trimStart cs :=
  List.dropWhile_append_of_pos blank

theorem trimStart_cons_of_not_blank (h : isBlank c = false) (cs : List Char) :
    trimStart (c :: cs) = c :: cs :=
  List.dropWhile_cons_of_neg (by simp [h])

/-- A text that does not start with a blank. -/
theorem trimStart_eq_self (start : cs.head?.any isBlank = false) : trimStart cs = cs := by
  cases cs with
  | nil => rfl
  | cons c rest => exact trimStart_cons_of_not_blank start rest

theorem trimEnd_eq_self (finish : cs.getLast?.any isBlank = false) : trimEnd cs = cs := by
  have reversed : cs.reverse.head?.any isBlank = false := by
    rwa [List.head?_reverse]
  rw [trimEnd, ← trimStart, trimStart_eq_self reversed, List.reverse_reverse]

theorem trim_trimStart (cs : List Char) : trim (trimStart cs) = trim cs :=
  congrArg trimEnd (List.dropWhile_idempotent isBlank cs)

/-- Trimming takes away nothing but blanks. -/
theorem mem_trim_of_not_blank (member : c ∈ cs) (h : isBlank c = false) : c ∈ trim cs := by
  have start {cs : List Char} (member : c ∈ cs) : c ∈ trimStart cs := by
    obtain ⟨blanks, split, blank⟩ := exists_blanks_append_trimStart cs
    rw [split] at member
    refine (List.mem_append.mp member).resolve_left fun inBlanks => ?_
    rw [blank c inBlanks] at h
    cases h
  exact List.mem_reverse.mpr (start (List.mem_reverse.mpr (start member)))

/-- A text without blanks at either end is not changed by trimming. -/
theorem trim_eq_self (start : cs.head?.any isBlank = false)
    (finish : cs.getLast?.any isBlank = false) : trim cs = cs := by
  rw [trim, trimStart_eq_self start, trimEnd_eq_self finish]

end Trimming

section Classes

theorem not_mem_blanks (blank : ∀ c ∈ blanks, isBlank c = true) (h : isBlank c = false) :
    c ∉ blanks := by
  intro member
  rw [blank c member] at h
  cases h

/-- No brace is among blanks. -/
theorem brace_not_mem_blanks (blank : ∀ c ∈ blanks, isBlank c = true) : '\x7b' ∉ blanks :=
  not_mem_blanks blank (by decide)

/-- Blanks end a word. -/
theorem isWord_eq_false_of_isBlank (h : isBlank c = true) : isWord c = false := by
  obtain ⟨range, member, low, high⟩ := CodeRanges.exists_of_contains h
  have apart : ∀ range ∈ blankRanges, ∀ n ∈ List.range' range.1 (range.2 + 1 - range.1),
      wordRanges.contains n = false := by decide +kernel
  exact apart range member c.toNat (List.mem_range'_1.mpr ⟨low, by omega⟩)

end Classes

section Appended

variable {tail : List Char}

/-- What stands in a text with a tail, and is not in the tail, stands in the text. -/
theorem exists_of_append_eq (front : List Char) {back : List Char}
    (split : cs ++ tail = front ++ c :: back) (absent : c ∉ tail) :
    ∃ rest, cs = front ++ c :: rest := by
  rcases List.append_eq_append_iff.mp split with ⟨more, -, behind⟩ | ⟨more, rfl, behind⟩
  · exact absurd (by simp [behind]) absent
  · cases more with
    | nil =>
        rw [List.nil_append] at behind
        exact absurd (behind ▸ List.mem_cons_self) absent
    | cons d rest =>
        obtain ⟨rfl, -⟩ := List.cons.inj behind
        exact ⟨rest, rfl⟩

variable {test : Char → Bool} (stop : tail.head?.any test = false)
include stop

/-- A tail is no part of what the text starts with if its first character is not. -/
theorem takeWhile_append_of_stop (cs : List Char) :
    (cs ++ tail).takeWhile test = cs.takeWhile test := by
  induction cs with
  | nil =>
      cases tail with
      | nil => rfl
      | cons c rest => exact List.takeWhile_cons_of_neg (by simpa using stop)
  | cons c rest ih => rw [List.cons_append, List.takeWhile_cons, List.takeWhile_cons, ih]

theorem dropWhile_append_of_stop (cs : List Char) :
    (cs ++ tail).dropWhile test = cs.dropWhile test ++ tail := by
  have same := (List.takeWhile_append_dropWhile (p := test) (l := cs ++ tail)).trans
    (congrArg (· ++ tail) (List.takeWhile_append_dropWhile (p := test) (l := cs)).symm)
  rw [takeWhile_append_of_stop stop, List.append_assoc] at same
  exact List.append_cancel_left same

end Appended

section Trailing

variable (blank : ∀ c ∈ blanks, isBlank c = true)
include blank

theorem trimEnd_append_blanks (cs : List Char) : trimEnd (cs ++ blanks) = trimEnd cs := by
  have reversed : ∀ c ∈ blanks.reverse, isBlank c = true :=
    fun c member => blank c (List.mem_reverse.mp member)
  rw [trimEnd, List.reverse_append, List.dropWhile_append_of_pos reversed, trimEnd]

/-- Blanks behind a text are trimmed from its start only if they are all that there is. -/
theorem trimStart_append_blanks (cs : List Char) :
    trimStart (cs ++ blanks) = if (trimStart cs).isEmpty then [] else trimStart cs ++ blanks := by
  rw [trimStart, List.dropWhile_append, List.dropWhile_eq_nil_iff.mpr blank, trimStart]

theorem trim_append_blanks (cs : List Char) : trim (cs ++ blanks) = trim cs := by
  rw [trim, trimStart_append_blanks blank]
  split
  · next empty => rw [trim, List.isEmpty_iff.mp empty]
  · exact trimEnd_append_blanks blank _

/-- What stands in a text with blanks behind it, and is no blank, stands in the text. -/
theorem exists_of_append_blanks_eq (front : List Char) {back : List Char}
    (split : cs ++ blanks = front ++ c :: back) (h : isBlank c = false) :
    ∃ rest, cs = front ++ c :: rest :=
  exists_of_append_eq front split (not_mem_blanks blank h)

section Span

variable {test : Char → Bool} (stops : ∀ c, isBlank c = true → test c = false)
include stops

theorem head?_any_blanks : blanks.head?.any test = false := by
  cases blanks with
  | nil => rfl
  | cons c rest => exact stops c (blank c List.mem_cons_self)

/-- Blanks behind a text are no part of what it starts with. -/
theorem takeWhile_append_blanks (cs : List Char) :
    (cs ++ blanks).takeWhile test = cs.takeWhile test :=
  takeWhile_append_of_stop (head?_any_blanks blank stops) cs

theorem dropWhile_append_blanks (cs : List Char) :
    (cs ++ blanks).dropWhile test = cs.dropWhile test ++ blanks :=
  dropWhile_append_of_stop (head?_any_blanks blank stops) cs

end Span

/-- No word reaches into blanks. -/
theorem words_append_blanks (cs : List Char) : words (cs ++ blanks) = words cs := by
  have stops (c : Char) (h : isBlank c = true) : isWord c = false := isWord_eq_false_of_isBlank h
  rw [words_append (.inr (head?_any_blanks blank stops)),
    words_eq_nil fun c member => stops c (blank c member), List.append_nil]

end Trailing

end JavadocAudit.Text

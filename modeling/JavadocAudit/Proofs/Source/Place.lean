import JavadocAudit.Comment
import JavadocAudit.Proofs.Text.Line
import JavadocAudit.Proofs.Text.Utf8
import JavadocAudit.Source.Point

/-!
# Places in a source text

A place in a text is reached by reading the text from its start, one character at a time. Points
count line feeds and bytes on the way, positions count lines and characters. It can also be reached
by taking a line of the text and an offset in the line, where the first line may start in the middle
of a line of a larger text: `shift` is the place that a line and an offset give behind a start.
Reading and shifting agree, in both directions. Therefore what stands at a point stands at the
position of the point, and what stands at an offset of a comment line stands at its position in the
source.
-/

namespace JavadocAudit

namespace Position

def next (position : Position) (c : Char) : Position :=
  if c = '\n' then ⟨position.line + 1, 1⟩ else ⟨position.line, position.column + 1⟩

def advance (position : Position) (cs : List Char) : Position := cs.foldl next position

/-- The position of a character, given the position at which a text starts, the line in the text and
the offset in the line. -/
def shift (start : Position) (row offset : Nat) : Position :=
  if row = 0 then ⟨start.line, start.column + offset⟩ else ⟨start.line + row, offset + 1⟩

variable (start : Position)

theorem next_newline : start.next '\n' = ⟨start.line + 1, 1⟩ := rfl

theorem next_of_ne {c : Char} (hc : c ≠ '\n') :
    start.next c = ⟨start.line, start.column + 1⟩ := if_neg hc

theorem shift_zero_zero : start.shift 0 0 = start := by simp [shift]

/-- Behind the start of a whole text. -/
theorem shift_start (row offset : Nat) : shift ⟨1, 1⟩ row offset = ⟨row + 1, offset + 1⟩ := by
  unfold shift
  split
  · next first => simp [first, Int.add_comm]
  · simp [Int.add_comm]

theorem shift_next_newline (row offset : Nat) :
    (start.next '\n').shift row offset = start.shift (row + 1) offset := by
  rw [next_newline]
  unfold shift
  by_cases hr : row = 0
  · simp [hr, Int.add_comm]
  · simp only [if_neg hr, Nat.add_one_ne_zero, if_false, Position.mk.injEq, and_true]
    push_cast
    omega

theorem shift_zero_next {c : Char} (hc : c ≠ '\n') (offset : Nat) :
    (start.next c).shift 0 offset = start.shift 0 (offset + 1) := by
  rw [next_of_ne start hc]
  simp only [shift, if_true, Position.mk.injEq, true_and]
  push_cast
  omega

theorem shift_succ_next {c : Char} (hc : c ≠ '\n') (row offset : Nat) :
    (start.next c).shift (row + 1) offset = start.shift (row + 1) offset := by
  rw [next_of_ne start hc]
  simp [shift]

end Position

theorem Comment.position_eq_shift (comment : Comment) (row offset : Nat) :
    comment.position row offset = comment.start.shift row offset := rfl

namespace Source

open Text

namespace Point

/-- The point in a line of a text behind some of its bytes, given the point at which the text
starts. -/
def shift (start : Point) (row bytes : Nat) : Point :=
  if row = 0 then ⟨start.row, start.byte + bytes⟩ else ⟨start.row + row, bytes⟩

variable (start : Point)

theorem next_newline : start.next '\n' = ⟨start.row + 1, 0⟩ := rfl

theorem next_of_ne {c : Char} (hc : c ≠ '\n') :
    start.next c = ⟨start.row, start.byte + c.utf8Size⟩ := if_neg hc

theorem shift_zero_zero : start.shift 0 0 = start := by simp [shift]

/-- Behind the start of a whole text. -/
theorem shift_start (row bytes : Nat) : shift ⟨0, 0⟩ row bytes = ⟨row, bytes⟩ := by
  unfold shift
  split
  · next first => simp [first]
  · simp

theorem shift_next_newline (row bytes : Nat) :
    (start.next '\n').shift row bytes = start.shift (row + 1) bytes := by
  rw [next_newline]
  unfold shift
  by_cases hr : row = 0
  · simp [hr]
  · simp only [if_neg hr, Nat.add_one_ne_zero, if_false, Point.mk.injEq, and_true]
    omega

theorem shift_zero_next {c : Char} (hc : c ≠ '\n') (bytes : Nat) :
    (start.next c).shift 0 bytes = start.shift 0 (c.utf8Size + bytes) := by
  rw [next_of_ne start hc]
  simp [shift, Nat.add_assoc]

theorem shift_succ_next {c : Char} (hc : c ≠ '\n') (row bytes : Nat) :
    (start.next c).shift (row + 1) bytes = start.shift (row + 1) bytes := by
  rw [next_of_ne start hc]
  simp [shift]

end Point

section Reading

/-- Reading the front of a text leads to a line of the whole text and to some text in it, behind
which the line goes on as what was not read yet. -/
theorem exists_line_of_append (front back : List Char) :
    ∃ row before, (∀ start : Position, start.advance front = start.shift row before.length) ∧
      (∀ start : Point, start.advance front = start.shift row (encodeUtf8 before).length) ∧
      (splitLines (front ++ back))[row]? = some (before ++ back.takeWhile (· ≠ '\n')) := by
  induction front with
  | nil =>
      refine ⟨0, [], fun start => ?_, fun start => ?_, splitLines_head? back⟩
      · exact start.shift_zero_zero.symm
      · exact start.shift_zero_zero.symm
  | cons c rest ih =>
      obtain ⟨row, before, reaches, reachesPoint, found⟩ := ih
      have reaches (start : Position) :
          start.advance (c :: rest) = (start.next c).shift row before.length := reaches _
      have reachesPoint (start : Point) :
          start.advance (c :: rest) = (start.next c).shift row (encodeUtf8 before).length :=
        reachesPoint _
      by_cases hc : c = '\n'
      · subst c
        refine ⟨row + 1, before, fun start => ?_, fun start => ?_, ?_⟩
        · rw [reaches, Position.shift_next_newline]
        · rw [reachesPoint, Point.shift_next_newline]
        · rw [List.cons_append, splitLines_cons_newline, List.getElem?_cons_succ, found]
      · rw [List.cons_append, splitLines_cons_of_ne hc]
        cases row with
        | zero =>
            have line : (rest ++ back).takeWhile (· ≠ '\n') =
                before ++ back.takeWhile (· ≠ '\n') := by
              simpa [splitLines_head?] using found
            refine ⟨0, c :: before, fun start => ?_, fun start => ?_, ?_⟩
            · rw [reaches, Position.shift_zero_next start hc, List.length_cons]
            · rw [reachesPoint, Point.shift_zero_next start hc, encodeUtf8_cons, List.length_append,
                String.length_utf8EncodeChar]
            · rw [List.getElem?_cons_zero, line, List.cons_append]
        | succ row =>
            refine ⟨row + 1, before, fun start => ?_, fun start => ?_, ?_⟩
            · rw [reaches, Position.shift_succ_next start hc]
            · rw [reachesPoint, Point.shift_succ_next start hc]
            · rw [List.getElem?_cons_succ, List.getElem?_tail, found]

/-- What stands in a line of a text behind an offset stands in the text, and reading up to it leads
to the line and the offset. -/
theorem exists_append_of_line {cs : List Char} {row : Nat} {before behind : List Char}
    (h : (splitLines cs)[row]? = some (before ++ behind)) :
    ∃ front back, cs = front ++ (behind ++ back) ∧
      ∀ start : Position, start.advance front = start.shift row before.length := by
  induction cs generalizing row before with
  | nil =>
      cases row with
      | zero =>
          obtain ⟨rfl, rfl⟩ : before = [] ∧ behind = [] := by simpa [splitLines, cutAt] using h
          exact ⟨[], [], rfl, fun start => start.shift_zero_zero.symm⟩
      | succ row => simp [splitLines, cutAt] at h
  | cons c rest ih =>
      by_cases hc : c = '\n'
      · subst c
        rw [splitLines_cons_newline] at h
        cases row with
        | zero =>
            obtain ⟨rfl, rfl⟩ : before = [] ∧ behind = [] := by simpa [eq_comm] using h
            exact ⟨[], '\n' :: rest, rfl, fun start => start.shift_zero_zero.symm⟩
        | succ row =>
            obtain ⟨front, back, split, reaches⟩ := ih (by simpa using h)
            refine ⟨'\n' :: front, back, by rw [split]; rfl, fun start => ?_⟩
            exact (reaches _).trans (start.shift_next_newline row _)
      · rw [splitLines_cons_of_ne hc] at h
        cases row with
        | zero =>
            have line : c :: rest.takeWhile (· ≠ '\n') = before ++ behind := by simpa using h
            cases before with
            | nil =>
                refine ⟨[], rest.dropWhile (· ≠ '\n'), ?_, fun start => start.shift_zero_zero.symm⟩
                rw [List.nil_append, ← List.nil_append behind, ← line, List.cons_append,
                  List.takeWhile_append_dropWhile]
            | cons b before =>
                obtain ⟨rfl, remains⟩ := List.cons.inj line
                have found : (splitLines rest)[0]? = some (before ++ behind) :=
                  (splitLines_head? rest).trans (congrArg some remains)
                obtain ⟨front, back, split, reaches⟩ := ih found
                refine ⟨c :: front, back, by rw [split]; rfl, fun start => ?_⟩
                exact (reaches _).trans (start.shift_zero_next hc _)
        | succ row =>
            have found : (splitLines rest)[row + 1]? = some (before ++ behind) := by
              simpa [List.getElem?_tail] using h
            obtain ⟨front, back, split, reaches⟩ := ih found
            refine ⟨c :: front, back, by rw [split]; rfl, fun start => ?_⟩
            exact (reaches _).trans (start.shift_succ_next hc row _)

end Reading

namespace Lines

/-- The lines in bytes are the bytes of the lines. -/
theorem bytes_ofText (text : List Char) :
    (ofText text).bytes = (splitLines text).map encodeUtf8 := by
  change cutAt 0x0A (encodeUtf8 text) = _
  induction text with
  | nil => rfl
  | cons c rest ih =>
      rw [encodeUtf8_cons]
      by_cases hc : c = '\n'
      · subst c
        rw [splitLines_cons_newline, List.map_cons, ← ih]
        rfl
      · have noFeed : (0x0A : UInt8) ∉ String.utf8EncodeChar c := fun member =>
          hc (ascii_mem_utf8EncodeChar member (by decide))
        obtain ⟨line, others, lines⟩ := List.exists_cons_of_ne_nil (splitLines_ne_nil rest)
        rw [lines, List.map_cons] at ih
        rw [cutAt_append_of_not_mem noFeed ih, splitLines_cons_of_eq_cons hc lines, List.map_cons,
          encodeUtf8_cons]

/-- The position of the point behind some text is the position behind it. -/
theorem position_advance (front back : List Char) :
    (ofText (front ++ back)).position (Point.advance ⟨0, 0⟩ front) =
      Position.advance ⟨1, 1⟩ front := by
  obtain ⟨row, before, reaches, reachesPoint, found⟩ := exists_line_of_append front back
  have point : Point.advance ⟨0, 0⟩ front = ⟨row, (encodeUtf8 before).length⟩ := by
    rw [reachesPoint, Point.shift_start]
  have line : (ofText (front ++ back)).bytes[row]? =
      some (encodeUtf8 before ++ encodeUtf8 (back.takeWhile (· ≠ '\n'))) := by
    rw [bytes_ofText, List.getElem?_map, found, Option.map_some, encodeUtf8_append]
  rw [point, reaches, position, line, Option.getD_some, List.take_left,
    decodeUtf8Leniently_encodeUtf8, Position.shift_start]

end Lines

section Occurrence

variable {π : Type} {next : π → Char → π} {start place : π} {text word : List Char}

/-- A text that starts at a place has a word at another place, where `next` is the place behind a
character. -/
def Occurs (next : π → Char → π) (start : π) (text : List Char) (place : π) (word : List Char) :
    Prop :=
  ∃ front back, text = front ++ (word ++ back) ∧ place = front.foldl next start

namespace Occurs

theorem here (next : π → Char → π) (start : π) (word back : List Char) :
    Occurs next start (word ++ back) start word :=
  ⟨[], back, rfl, rfl⟩

theorem append_right (h : Occurs next start text place word) (more : List Char) :
    Occurs next start (text ++ more) place word := by
  obtain ⟨front, back, rfl, reached⟩ := h
  exact ⟨front, back ++ more, by simp, reached⟩

theorem append_left {front : List Char}
    (h : Occurs next (front.foldl next start) text place word) :
    Occurs next start (front ++ text) place word := by
  obtain ⟨between, back, rfl, rfl⟩ := h
  exact ⟨front ++ between, back, by simp, List.foldl_append.symm⟩

/-- Part of a word that occurs in a text occurs there too. -/
theorem trans {place' : π} {part : List Char} (h : Occurs next start text place word)
    (h' : Occurs next place word place' part) : Occurs next start text place' part := by
  obtain ⟨front, back, rfl, rfl⟩ := h
  exact (h'.append_right back).append_left

/-- What stands at a point of a text stands at the position of the point. -/
theorem position {point : Point} (h : Occurs Point.next ⟨0, 0⟩ text point word) :
    Occurs Position.next ⟨1, 1⟩ text ((Lines.ofText text).position point) word := by
  obtain ⟨front, back, rfl, rfl⟩ := h
  exact ⟨front, back, rfl, Lines.position_advance front (word ++ back)⟩

end Occurs

/-- Among the lines of a text there is one with the number that a position gives, and behind the
character before its column the line goes on with a word. Lines and columns count from one. -/
def PointsAt (text : List Char) (position : Position) (word : List Char) : Prop :=
  ∃ (row offset : Nat) (line : List Char), position = ⟨row + 1, offset + 1⟩ ∧
    (splitLines text)[row]? = some line ∧ word <+: line.drop offset

/-- A word without line feeds that occurs in a text is found on the line and at the column of its
position. -/
theorem Occurs.pointsAt {position : Position} (h : Occurs Position.next ⟨1, 1⟩ text position word)
    (one_line : '\n' ∉ word) : PointsAt text position word := by
  obtain ⟨front, back, rfl, rfl⟩ := h
  obtain ⟨row, before, reaches, -, found⟩ := exists_line_of_append front (word ++ back)
  refine ⟨row, before.length, _, ?_, found, ?_⟩
  · exact (reaches ⟨1, 1⟩).trans (Position.shift_start row before.length)
  · have all : ∀ c ∈ word, decide (c ≠ '\n') = true := by
      intro c member
      simpa using fun equal : c = '\n' => one_line (equal ▸ member)
    rw [List.drop_left, List.takeWhile_append_of_pos all]
    exact List.prefix_append word _

end Occurrence

end Source

end JavadocAudit

/-!
# Places in a configuration document

A document is read from left to right. The place in it is the rest of the text together with the
number of characters before it, the line, and the column, in which a byte order mark does not count.
-/

namespace JavadocAudit.Document

def isBreak (c : Char) : Bool :=
  c = '\n' || c = '\r' || c = '\x85' || c = '\u2028' || c = '\u2029'

/-- The characters that a document may contain. -/
def isAllowed (c : Char) : Bool :=
  let n := c.toNat
  n = 0x9 || n = 0xA || n = 0xD || (0x20 ≤ n && n ≤ 0x7E) || n = 0x85 || (0xA0 ≤ n && n ≤ 0xD7FF)
    || (0xE000 ≤ n && n ≤ 0xFFFD) || 0x10000 ≤ n

/-- A place in a document. -/
structure Cursor where
  rest : List Char
  index : Nat := 0
  line : Nat := 0
  column : Nat := 0

namespace Cursor

/-- The character at a distance, if the document goes on that far. -/
def peek (cursor : Cursor) (distance : Nat) : Option Char := cursor.rest[distance]?

def atEnd (cursor : Cursor) : Bool := cursor.rest.isEmpty

def at? (cursor : Cursor) (c : Char) : Bool := cursor.rest.head? = some c

/-- The place behind the next character. -/
def next (cursor : Cursor) : Cursor :=
  match cursor.rest with
  | [] => cursor
  | c :: rest =>
    if isBreak c && !(c = '\r' && rest.head? = some '\n') then
      ⟨rest, cursor.index + 1, cursor.line + 1, 0⟩
    else
      ⟨rest, cursor.index + 1, cursor.line,
        if c = '\ufeff' then cursor.column else cursor.column + 1⟩

/-- The place a number of characters further on. -/
def skip (cursor : Cursor) : Nat → Cursor
  | 0 => cursor
  | n + 1 => cursor.next.skip n

/-- The characters from here on that pass a test, and the place behind them. -/
def span (cursor : Cursor) (test : Char → Bool) : List Char × Cursor :=
  let cs := cursor.rest.takeWhile test
  (cs, cursor.skip cs.length)

/-- The place behind the characters that pass a test. -/
def skipWhile (cursor : Cursor) (test : Char → Bool) : Cursor := (cursor.span test).2

/-- The text ends a distance ahead, or a blank or line break stands there. -/
def blankAt (cursor : Cursor) (distance : Nat) : Bool :=
  (cursor.peek distance).all fun c => c = ' ' || c = '\t' || isBreak c

/-- The line ends here or a space follows. -/
def endsWord (cursor : Cursor) : Bool := cursor.rest.head?.all fun c => c = ' ' || isBreak c

def endsLine (cursor : Cursor) : Bool := cursor.rest.head?.all isBreak

/-- A line that separates documents starts here. -/
def atSeparator (cursor : Cursor) : Bool :=
  (cursor.rest.take 3 = ['-', '-', '-'] || cursor.rest.take 3 = ['.', '.', '.'])
    && cursor.blankAt 3

/-- The line break here as it is kept in texts, and the place behind it. The breaks of Unicode are
kept, all others become line feeds. -/
def lineBreak? (cursor : Cursor) : Option (Char × Cursor) :=
  match cursor.rest with
  | '\r' :: '\n' :: _ => some ('\n', cursor.skip 2)
  | c :: _ =>
    if c = '\u2028' || c = '\u2029' then some (c, cursor.next)
    else if isBreak c then some ('\n', cursor.next)
    else none
  | [] => none

/-- The place behind spaces and a comment. -/
def skipComment (cursor : Cursor) : Cursor :=
  let cursor := cursor.skipWhile (· = ' ')
  if cursor.at? '#' then cursor.skipWhile (!isBreak ·) else cursor

/-- The place behind the line break here, if there is one. -/
def skipBreak (cursor : Cursor) : Cursor :=
  match cursor.lineBreak? with
  | some (_, after) => after
  | none => cursor

end Cursor

end JavadocAudit.Document

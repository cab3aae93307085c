import JavadocAudit.Document.Cursor
import JavadocAudit.Document.Fault

/-!
# The text of scalars

A scalar is plain, quoted, or a block of indented lines. Line breaks inside plain and quoted scalars
are folded: a single one becomes a space, further ones are kept.
-/

namespace JavadocAudit.Document

/-- Breaks that are kept when a first line break is folded. -/
def foldBreaks (first : Char) (others : List Char) : List Char :=
  if first ≠ '\n' then first :: others
  else if others.isEmpty then [' ']
  else others

def hexNumber (digits : List Char) : Nat :=
  digits.foldl (fun n c =>
    16 * n + (if c.isDigit then c.toNat - 48
      else if 'a' ≤ c then c.toNat - 87 else c.toNat - 55)) 0

def isHexDigit (c : Char) : Bool := c.isDigit || ('a' ≤ c && c ≤ 'f') || ('A' ≤ c && c ≤ 'F')

namespace Quoted

/-- The character that a letter behind a backslash stands for. -/
def escape? : Char → Option Char
  | '0' => some '\x00'
  | 'a' => some '\x07'
  | 'b' => some '\x08'
  | 't' => some '\t'
  | '\t' => some '\t'
  | 'n' => some '\n'
  | 'v' => some '\x0b'
  | 'f' => some '\x0c'
  | 'r' => some '\r'
  | 'e' => some '\x1b'
  | ' ' => some ' '
  | '"' => some '"'
  | '\\' => some '\\'
  | '/' => some '/'
  | 'N' => some '\x85'
  | '_' => some '\xa0'
  | 'L' => some '\u2028'
  | 'P' => some '\u2029'
  | _ => none

/-- The number of hexadecimal digits behind a letter that introduces a code point. -/
def escapeDigits? : Char → Option Nat
  | 'x' => some 2
  | 'u' => some 4
  | 'U' => some 8
  | _ => none

/-- The breaks of empty lines, and the place of the text behind them. -/
def breaks : Nat → Cursor → List Char → Reading (List Char × Cursor)
  | 0, _, _ => throw .malformed
  | fuel + 1, cursor, kept => do
    if cursor.atSeparator then throw .malformed
    let cursor := cursor.skipWhile fun c => c = ' ' || c = '\t'
    match cursor.lineBreak? with
    | some (c, after) => breaks fuel after (c :: kept)
    | none => return (kept.reverse, cursor)

def escapedCode (cursor : Cursor) (count : Nat) : Reading (Char × Cursor) := do
  let digits := cursor.rest.take count
  if digits.length < count || !digits.all isHexDigit then throw .malformed
  let code := hexNumber digits
  if 0x10FFFF < code then throw .badCharacter
  if 0xD800 ≤ code && code < 0xE000 then throw .surrogate
  return (Char.ofNat code, cursor.skip count)

/-- The text of a quoted scalar from a place inside it to its closing quote; `text` holds what comes
before, in reverse. -/
def content (double : Bool) : Nat → Cursor → List Char → Reading (List Char × Cursor)
  | 0, _, _ => throw .malformed
  | fuel + 1, cursor, text => do
    match cursor.rest with
    | [] => throw .malformed
    | c :: after =>
      if c = '\'' && !double then
        if after.head? = some '\'' then content double fuel (cursor.skip 2) ('\'' :: text)
        else return (text.reverse, cursor.next)
      else if c = '"' && double then return (text.reverse, cursor.next)
      else if c = '\\' && double then
        match after with
        | [] => throw .malformed
        | e :: _ =>
          if let some plain := escape? e then content double fuel (cursor.skip 2) (plain :: text)
          else if let some count := escapeDigits? e then
            let (code, cursor) ← escapedCode (cursor.skip 2) count
            content double fuel cursor (code :: text)
          else if isBreak e then
            let cursor := cursor.next.skipBreak
            let (kept, cursor) ← breaks (cursor.rest.length + 1) cursor []
            content double fuel cursor (kept.reverse ++ text)
          else throw .malformed
      else if c = ' ' || c = '\t' || isBreak c then
        let (blanks, cursor) := cursor.span fun c => c = ' ' || c = '\t'
        match cursor.lineBreak? with
        | some (first, cursor) =>
          let (others, cursor) ← breaks (cursor.rest.length + 1) cursor []
          content double fuel cursor ((foldBreaks first others).reverse ++ text)
        | none =>
          if cursor.atEnd then throw .malformed
          content double fuel cursor (blanks.reverse ++ text)
      else content double fuel cursor.next (c :: text)

/-- A quoted scalar from its opening quote on. -/
def scan (double : Bool) (cursor : Cursor) : Reading (String × Cursor) := do
  let (text, cursor) ← content double (cursor.rest.length + 1) cursor.next []
  return (String.ofList text, cursor)

end Quoted

namespace Plain

/-- A character that ends the part of a plain scalar within a line, given the one behind it. -/
def stopsAt (inFlow : Bool) (c : Char) (after : Option Char) : Bool :=
  c = ' ' || c = '\t' || isBreak c
    || (c = ':' && after.all fun d =>
      d = ' ' || d = '\t' || isBreak d || (inFlow && [',', '[', ']', '\x7b', '\x7d'].contains d))
    || (inFlow && [',', '?', '[', ']', '\x7b', '\x7d'].contains c)

/-- The part of a plain scalar within a line. -/
def word (inFlow : Bool) : List Char → List Char
  | [] => []
  | c :: rest => if stopsAt inFlow c rest.head? then [] else c :: word inFlow rest

/-- The breaks of empty lines; `none` where a separator of documents follows. -/
def breaks : Nat → Cursor → List Char → Option (List Char) × Cursor
  | 0, cursor, kept => (some kept.reverse, cursor)
  | fuel + 1, cursor, kept =>
    if cursor.at? ' ' then breaks fuel cursor.next kept
    else
      match cursor.lineBreak? with
      | some (c, after) =>
        if after.atSeparator then (none, after) else breaks fuel after (c :: kept)
      | none => (some kept.reverse, cursor)

/-- The blanks and line breaks behind a part of a plain scalar as they appear if more follows, the
place behind them, and whether there is a line break among them. Nothing can follow a separator of
documents. -/
def blanks (cursor : Cursor) : List Char × Cursor × Bool :=
  let (spaces, cursor) := cursor.span (· = ' ')
  match cursor.lineBreak? with
  | none => (spaces, cursor, false)
  | some (first, cursor) =>
    if cursor.atSeparator then ([], cursor, true)
    else
      match breaks (cursor.rest.length + 1) cursor [] with
      | (none, cursor) => ([], cursor, true)
      | (some others, cursor) => (foldBreaks first others, cursor, true)

/-- The rest of a plain scalar; the flag tells whether it ended at the start of a line. -/
def content (inFlow : Bool) (indent : Int) :
    Nat → Cursor → List Char → List Char → Bool → List Char × Cursor × Bool
  | 0, cursor, text, _, atStart => (text.reverse, cursor, atStart)
  | fuel + 1, cursor, text, spaces, atStart =>
    let part := if cursor.at? '#' then [] else word inFlow cursor.rest
    if part.isEmpty then (text.reverse, cursor, atStart)
    else
      let text := part.reverse ++ spaces.reverse ++ text
      let (spaces, cursor, broken) := blanks (cursor.skip part.length)
      if spaces.isEmpty || cursor.at? '#' || (!inFlow && (cursor.column : Int) < indent) then
        (text.reverse, cursor, broken)
      else content inFlow indent fuel cursor text spaces broken

def scan (inFlow : Bool) (indent : Int) (cursor : Cursor) : String × Cursor × Bool :=
  let (text, cursor, atStart) := content inFlow indent (cursor.rest.length + 1) cursor [] [] false
  (String.ofList text, cursor, atStart)

end Plain

namespace Block

/-- What happens to the line breaks at the end of a block. -/
inductive Chomping where
  | strip
  | clip
  | keep
  deriving DecidableEq, Repr

def chomping? : Char → Option Chomping
  | '+' => some .keep
  | '-' => some .strip
  | _ => none

/-- An indentation given by a digit. -/
def indentation? (cursor : Cursor) : Reading (Option Nat × Cursor) :=
  match cursor.rest.head? with
  | some c =>
    if c = '0' then throw .malformed
    else if c.isDigit then return (some (c.toNat - 48), cursor.next)
    else return (none, cursor)
  | none => return (none, cursor)

def sign? (cursor : Cursor) : Option Chomping × Cursor :=
  match cursor.rest.head?.bind chomping? with
  | some chomping => (some chomping, cursor.next)
  | none => (none, cursor)

/-- The chomping and indentation behind the mark of a block, in either order. -/
def header (cursor : Cursor) : Reading (Chomping × Option Nat × Cursor) := do
  let (before, cursor) := sign? cursor
  let (indent, cursor) ← indentation? cursor
  let (after, cursor) := if before.isNone && indent.isSome then sign? cursor else (none, cursor)
  if !cursor.endsWord then throw .malformed
  let cursor := cursor.skipComment
  if !cursor.endsLine then throw .malformed
  return ((before.or after).getD .clip, indent, cursor.skipBreak)

/-- The empty lines before a block, the greatest number of spaces in one of them or before the
text, and the place of the text. -/
def leading : Nat → Cursor → List Char → Nat → List Char × Nat × Cursor
  | 0, cursor, kept, most => (kept.reverse, most, cursor)
  | fuel + 1, cursor, kept, most =>
    if cursor.at? ' ' then leading fuel cursor.next kept (max most cursor.next.column)
    else
      match cursor.lineBreak? with
      | some (c, after) => leading fuel after (c :: kept) most
      | none => (kept.reverse, most, cursor)

/-- The place behind the indentation of a line. -/
def skipIndent (indent : Nat) (cursor : Cursor) : Cursor :=
  cursor.skip (min (indent - cursor.column) (cursor.rest.takeWhile (· = ' ')).length)

/-- The empty lines from here on, and the place of the text behind them. -/
def emptyLines (indent : Nat) : Nat → Cursor → List Char → List Char × Cursor
  | 0, cursor, kept => (kept.reverse, cursor)
  | fuel + 1, cursor, kept =>
    let cursor := skipIndent indent cursor
    match cursor.lineBreak? with
    | some (c, after) => emptyLines indent fuel after (c :: kept)
    | none => (kept.reverse, cursor)

/-- A line of a block starts here. -/
def atLine (indent : Nat) (cursor : Cursor) : Bool := cursor.column = indent && !cursor.atEnd

/-- Text starts here, and not more blanks. -/
def atText (cursor : Cursor) : Bool := !(cursor.at? ' ' || cursor.at? '\t')

/-- The lines of a block from a line on, given the text before it in reverse and the empty lines in
between: the text without its last line break, that line break, and the empty lines behind. -/
def lines (folded : Bool) (indent : Nat) :
    Nat → Cursor → List Char → List Char → List Char × List Char × List Char × Cursor
  | 0, cursor, text, empty => (text, [], empty, cursor)
  | fuel + 1, cursor, text, empty =>
    let starts := atText cursor
    let (line, cursor) := cursor.span (!isBreak ·)
    let text := line.reverse ++ empty.reverse ++ text
    let (ending, cursor) := match cursor.lineBreak? with
      | some (c, after) => ([c], after)
      | none => ([], cursor)
    let (empty, cursor) := emptyLines indent (cursor.rest.length + 1) cursor []
    if atLine indent cursor then
      let joint :=
        if folded && ending = ['\n'] && starts && atText cursor then
          if empty.isEmpty then [' '] else []
        else ending
      lines folded indent fuel cursor (joint ++ text) empty
    else (text, ending, empty, cursor)

/-- A block scalar from its mark on, inside a collection with the given indentation. -/
def scan (folded : Bool) (outer : Int) (cursor : Cursor) : Reading (String × Cursor) := do
  let (chomping, increment, cursor) ← header cursor.next
  let least := (max 1 (outer + 1)).toNat
  let fuel := cursor.rest.length + 1
  let (indent, empty, cursor) := match increment with
    | none =>
      let (empty, most, cursor) := leading fuel cursor [] 0
      (max least most, empty, cursor)
    | some increment =>
      let indent := least + increment - 1
      let (empty, cursor) := emptyLines indent fuel cursor []
      (indent, empty, cursor)
  let (text, ending, empty, cursor) :=
    if atLine indent cursor then lines folded indent fuel cursor [] empty
    else ([], [], empty, cursor)
  let tail := match chomping with
    | .strip => []
    | .clip => ending
    | .keep => ending ++ empty
  return (String.ofList (text.reverse ++ tail), cursor)

end Block

end JavadocAudit.Document

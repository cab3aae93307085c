import JavadocAudit.Document.Token.Property

/-!
# Cutting a document into tokens

Most tokens can be told from the characters at their start. Two things need memory. Indentation
opens and closes collections, so the indentations of the open ones are kept. And a colon turns what
stands before it on the same line into a key, so for every level of brackets the place is kept where
a key may have started; the token that marks the key is put in there once the colon is found.
-/

namespace JavadocAudit.Document

/-- A place where a key may have started. -/
structure PossibleKey where
  /-- How many tokens come before it. -/
  tokens : Nat
  /-- Only a key can stand here. -/
  required : Bool
  index : Nat
  line : Nat
  column : Nat

/-- The state of cutting a document into tokens. -/
structure Scan where
  cursor : Cursor
  /-- The tokens so far, in reverse. -/
  tokens : List Token := []
  /-- How many brackets are open. -/
  level : Nat := 0
  /-- The indentation of the innermost collection, and those of the collections around it. -/
  indent : Int := -1
  outerIndents : List Int := []
  /-- A key may start here. -/
  mayStartKey : Bool := true
  /-- The places where keys may have started, by the number of open brackets. -/
  keys : List (Nat × PossibleKey) := []

namespace Scan

/-- The place is inside brackets. -/
def inFlow (s : Scan) : Bool := s.level ≠ 0

def emit (s : Scan) (token : Token) : Scan := { s with tokens := token :: s.tokens }

/-- Goes on to another place. -/
def moveTo (s : Scan) (cursor : Cursor) : Scan := { s with cursor }

def allowKey (s : Scan) (allowed : Bool) : Scan := { s with mayStartKey := allowed }

/-- Puts a token in behind a number of tokens. -/
def insert (s : Scan) (position : Nat) (token : Token) : Scan :=
  { s with tokens := s.tokens.insertIdx (s.tokens.length - position) token }

/-- Gives up the key that may have started at this level of brackets. -/
def dropKey (s : Scan) : Reading Scan :=
  match s.keys.lookup s.level with
  | some key =>
    if key.required then throw .malformed
    else return { s with keys := s.keys.filter (·.1 ≠ s.level) }
  | none => return s

/-- Remembers that a key may start here. -/
def saveKey (s : Scan) : Reading Scan := do
  if !s.mayStartKey then return s
  let required := !s.inFlow && s.indent = s.cursor.column
  let key : PossibleKey :=
    ⟨s.tokens.length, required, s.cursor.index, s.cursor.line, s.cursor.column⟩
  let s ← s.dropKey
  return { s with keys := (s.level, key) :: s.keys }

/-- A key lies too far back: on another line, or more than 1024 characters away. -/
def isStale (s : Scan) (key : PossibleKey) : Bool :=
  key.line ≠ s.cursor.line || 1024 < s.cursor.index - key.index

/-- Gives up the keys that lie too far back. -/
def dropStaleKeys (s : Scan) : Reading Scan :=
  if s.keys.any fun (_, key) => s.isStale key && key.required then throw .malformed
  else return { s with keys := s.keys.filter fun (_, key) => !s.isStale key }

/-- The indentation and the tokens after collections that are indented further than a column are
closed, given the indentations of the collections around. -/
def closeUntil (column : Int) : Int → List Int → List Token → Int × List Int × List Token
  | indent, [], tokens => (indent, [], tokens)
  | indent, outer :: others, tokens =>
    if column < indent then closeUntil column outer others (.blockEnd :: tokens)
    else (indent, outer :: others, tokens)

/-- Closes the collections that are indented further than a column. Brackets keep them open. -/
def unwind (s : Scan) (column : Int) : Scan :=
  if s.inFlow then s
  else
    let (indent, outerIndents, tokens) := closeUntil column s.indent s.outerIndents s.tokens
    { s with indent, outerIndents, tokens }

/-- Opens a collection at a column that is indented further than all before. -/
def openAt (s : Scan) (column : Nat) : Option Scan :=
  if s.indent < column then
    some { s with indent := column, outerIndents := s.indent :: s.outerIndents }
  else none

/-- The place of the next token. A line break outside brackets lets a key start. -/
def skipBlanks : Nat → Scan → Scan
  | 0, s => s
  | fuel + 1, s =>
    let cursor := s.cursor.skipComment
    match cursor.lineBreak? with
    | some (_, after) => skipBlanks fuel ((s.moveTo after).allowKey (s.mayStartKey || !s.inFlow))
    | none => s.moveTo cursor

def mark (s : Scan) (token : Token) : Scan := (s.emit token).moveTo s.cursor.next

/-- Starts a collection in the lines of a document, where one may start. -/
def startBlock (s : Scan) (token : Token) : Reading Scan := do
  if s.inFlow then return s
  if !s.mayStartKey then throw .malformed
  match s.openAt s.cursor.column with
  | some opened => return opened.emit token
  | none => return s

/-- A sign at the start of a line that separates documents. -/
def separator (s : Scan) (token : Token) : Reading Scan := do
  let s ← (s.unwind (-1)).dropKey
  return ((s.emit token).moveTo (s.cursor.skip 3)).allowKey false

def openBracket (s : Scan) (token : Token) : Reading Scan := do
  let s ← s.saveKey
  return { (s.mark token).allowKey true with level := s.level + 1 }

def closeBracket (s : Scan) (token : Token) : Reading Scan := do
  if !s.inFlow then throw .malformed
  let s ← s.dropKey
  return { (s.mark token).allowKey false with level := s.level - 1 }

/-- The comma between entries. -/
def entrySeparator (s : Scan) : Reading Scan := do
  return ((← s.dropKey).mark .flowEntry).allowKey true

/-- The dash before an entry of a list. -/
def listEntry (s : Scan) : Reading Scan := do
  let s ← (← s.startBlock .blockSequenceStart).dropKey
  return (s.mark .blockEntry).allowKey true

/-- The question mark before a key. -/
def explicitKey (s : Scan) : Reading Scan := do
  let s ← (← s.startBlock .blockMappingStart).dropKey
  return (s.mark .key).allowKey (!s.inFlow)

/-- Turns what started at a place into a key. -/
def insertKey (s : Scan) (key : PossibleKey) : Scan :=
  let s := s.insert key.tokens .key
  if s.inFlow then s
  else
    match s.openAt key.column with
    | some opened => opened.insert key.tokens .blockMappingStart
    | none => s

/-- The colon before a value. -/
def entryValue (s : Scan) : Reading Scan := do
  match s.keys.lookup s.level with
  | some key =>
    let s := { s with keys := s.keys.filter (·.1 ≠ s.level) }
    return ((s.insertKey key).mark .value).allowKey false
  | none =>
    let s ← s.startBlock .blockMappingStart
    return (s.mark .value).allowKey (!s.inFlow)

/-- A token that may be the start of a key, with the place behind it. -/
def keyPart (s : Scan) (token : Reading (Token × Cursor)) : Reading Scan := do
  let s ← s.saveKey
  let (token, cursor) ← token
  return ((s.emit token).moveTo cursor).allowKey false

def block (s : Scan) (folded : Bool) : Reading Scan := do
  let s ← s.dropKey
  let (text, cursor) ← Block.scan folded s.indent s.cursor
  return ((s.emit (.scalar text false)).moveTo cursor).allowKey true

def quoted (s : Scan) (double : Bool) : Reading Scan :=
  s.keyPart do
    let (text, cursor) ← Quoted.scan double s.cursor
    return (.scalar text false, cursor)

/-- A scalar without quotes. -/
def plain (s : Scan) : Reading Scan := do
  let s ← s.saveKey
  let (text, cursor, atStart) := Plain.scan s.inFlow (s.indent + 1) s.cursor
  return ((s.emit (.scalar text true)).moveTo cursor).allowKey atStart

/-- A scalar without quotes can start here. -/
def atPlain (s : Scan) : Bool :=
  match s.cursor.rest with
  | [] => false
  | c :: _ =>
    !(s.cursor.blankAt 0 || "-?:,[]\x7b\x7d#&*!|>'\"%@`".contains c)
      || (!s.cursor.blankAt 1 && (c = '-' || (!s.inFlow && (c = '?' || c = ':'))))

def token (s : Scan) : Reading Scan := do
  let lineStart := s.cursor.column = 0
  let alone := s.cursor.blankAt 1
  match s.cursor.rest with
  | [] => return s
  | c :: _ =>
    if c = '%' && lineStart then
      let s ← (s.unwind (-1)).dropKey
      let (token, cursor) ← Directive.scan s.cursor
      return ((s.emit token).moveTo cursor).allowKey false
    else if lineStart && s.cursor.atSeparator then
      s.separator (if c = '-' then .documentStart else .documentEnd)
    else if c = '[' then s.openBracket .flowSequenceStart
    else if c = '\x7b' then s.openBracket .flowMappingStart
    else if c = ']' then s.closeBracket .flowSequenceEnd
    else if c = '\x7d' then s.closeBracket .flowMappingEnd
    else if c = ',' then s.entrySeparator
    else if c = '-' && alone then s.listEntry
    else if c = '?' && (s.inFlow || alone) then s.explicitKey
    else if c = ':' && (s.inFlow || alone) then s.entryValue
    else if c = '*' then
      s.keyPart ((anchorName s.cursor).map fun (name, after) => (.alias name, after))
    else if c = '&' then
      s.keyPart ((anchorName s.cursor).map fun (name, after) => (.anchor name, after))
    else if c = '!' then s.keyPart (TagText.scan s.cursor)
    else if c = '|' && !s.inFlow then s.block false
    else if c = '>' && !s.inFlow then s.block true
    else if c = '\'' then s.quoted false
    else if c = '"' then s.quoted true
    else if s.atPlain then s.plain
    else throw .malformed

def run : Nat → Scan → Reading (List Token)
  | 0, _ => throw .malformed
  | fuel + 1, s => do
    let s := s.skipBlanks (s.cursor.rest.length + 1)
    let s := (← s.dropStaleKeys).unwind s.cursor.column
    if s.cursor.atEnd then
      let s ← (s.unwind (-1)).dropKey
      return s.tokens.reverse
    run fuel (← s.token)

end Scan

def Token.scan (text : List Char) : Reading (List Token) := do
  if !text.all isAllowed then throw .malformed
  let start : Cursor := { rest := text }
  let start := if start.at? '\ufeff' then start.next else start
  Scan.run (text.length + 1) { cursor := start }

end JavadocAudit.Document

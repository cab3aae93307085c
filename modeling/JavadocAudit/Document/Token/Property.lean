import JavadocAudit.Document.Token.Basic
import JavadocAudit.Document.Token.Scalar
import JavadocAudit.Text.Utf8

/-!
# Anchors, tags and directives

A node can have a name that later aliases repeat, and a tag that says what it is. Tags may be
abbreviated by handles, which directives define.
-/

namespace JavadocAudit.Document

def isNameChar (c : Char) : Bool := c.isAlphanum || c = '-' || c = '_'

/-- The characters of tags, the start of an escape among them. -/
def isUriChar (c : Char) : Bool := c.isAlphanum || "-;/?:@&=+$,_.!~*'()[]%".contains c

/-- The name behind the mark of an anchor or alias. -/
def anchorName (cursor : Cursor) : Reading (String × Cursor) := do
  let (name, cursor) := cursor.next.span isNameChar
  if name.isEmpty then throw .malformed
  unless cursor.blankAt 0 || "?:,]\x7d%@`".toList.any cursor.at? do throw .malformed
  return (String.ofList name, cursor)

namespace TagText

/-- Escaped bytes, one behind the other. -/
def escapes : Nat → Cursor → Reading (List UInt8 × Cursor)
  | 0, cursor => return ([], cursor)
  | fuel + 1, cursor => do
    if !cursor.at? '%' then return ([], cursor)
    let digits := (cursor.rest.drop 1).take 2
    if digits.length < 2 || !digits.all isHexDigit then throw .malformed
    let (bytes, cursor) ← escapes fuel (cursor.skip 3)
    return (UInt8.ofNat (hexNumber digits) :: bytes, cursor)

/-- The characters of a tag from here on. -/
def uriChars : Nat → Cursor → Reading (List Char × Cursor)
  | 0, cursor => return ([], cursor)
  | fuel + 1, cursor => do
    if cursor.at? '%' then
      let (bytes, cursor) ← escapes (cursor.rest.length + 1) cursor
      match Text.decodeUtf8 bytes with
      | .error _ => throw .malformed
      | .ok escaped =>
        let (others, cursor) ← uriChars fuel cursor
        return (escaped ++ others, cursor)
    else
      let (plain, cursor) := cursor.span fun c => isUriChar c && c ≠ '%'
      if plain.isEmpty then return ([], cursor)
      let (others, cursor) ← uriChars fuel cursor
      return (plain ++ others, cursor)

/-- A tag or the end of one; there has to be at least one character. -/
def uri (cursor : Cursor) : Reading (String × Cursor) := do
  let (cs, after) ← uriChars (cursor.rest.length + 1) cursor
  if after.index = cursor.index then throw .malformed
  return (String.ofList cs, after)

/-- A handle: an exclamation mark, or a name between two of them. -/
def handle (cursor : Cursor) : Reading (String × Cursor) := do
  if !cursor.at? '!' then throw .malformed
  let cursor := cursor.next
  if cursor.at? ' ' then return ("!", cursor)
  let (name, cursor) := cursor.span isNameChar
  if !cursor.at? '!' then throw .malformed
  return ("!" ++ String.ofList name ++ "!", cursor.next)

/-- A tag from its exclamation mark on. -/
def scan (cursor : Cursor) : Reading (Token × Cursor) := do
  let (token, cursor) ←
    if cursor.peek 1 = some '<' then do
      let (suffix, cursor) ← uri (cursor.skip 2)
      if !cursor.at? '>' then throw .malformed
      pure (Token.tag none suffix, cursor.next)
    else if cursor.blankAt 1 then pure (Token.tag none "!", cursor.next)
    else do
      let word := (cursor.rest.drop 1).takeWhile fun c => !(c = ' ' || isBreak c)
      let (start, cursor) ← if word.contains '!' then handle cursor else pure ("!", cursor.next)
      let (suffix, cursor) ← uri cursor
      pure (Token.tag (some start) suffix, cursor)
  if !cursor.endsWord then throw .malformed
  return (token, cursor)

end TagText

namespace Directive

/-- A number in a directive, of at most 4300 digits. -/
def number (cursor : Cursor) : Reading (Nat × Cursor) := do
  let (digits, cursor) := cursor.span Char.isDigit
  if digits.isEmpty then throw .malformed
  if 4300 < digits.length then throw .badNumber
  return (digits.foldl (fun n c => 10 * n + (c.toNat - 48)) 0, cursor)

def versionLine (cursor : Cursor) : Reading (Directive × Cursor) := do
  let (major, cursor) ← number (cursor.skipWhile (· = ' '))
  if !cursor.at? '.' then throw .malformed
  let (minor, cursor) ← number cursor.next
  if !cursor.endsWord then throw .malformed
  return (.version major minor, cursor)

/-- The definition of a handle. -/
def tagLine (cursor : Cursor) : Reading (Directive × Cursor) := do
  let (name, cursor) ← TagText.handle (cursor.skipWhile (· = ' '))
  if !cursor.at? ' ' then throw .malformed
  let (start, cursor) ← TagText.uri (cursor.skipWhile (· = ' '))
  if !cursor.endsWord then throw .malformed
  return (.tag name start, cursor)

/-- A directive from its percent sign on, with the rest of its line. -/
def scan (cursor : Cursor) : Reading (Token × Cursor) := do
  let (name, cursor) := cursor.next.span isNameChar
  if name.isEmpty || !cursor.endsWord then throw .malformed
  let (directive, cursor) ← match String.ofList name with
    | "YAML" => versionLine cursor
    | "TAG" => tagLine cursor
    | word => pure (Directive.other word, cursor.skipWhile (!isBreak ·))
  let cursor := cursor.skipComment
  if !cursor.endsLine then throw .malformed
  return (.directive directive, cursor.skipBreak)

end Directive

end JavadocAudit.Document

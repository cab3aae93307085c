import JavadocAudit.Comment
import JavadocAudit.Tag.Basic
import JavadocAudit.Text.Blank
import JavadocAudit.Text.Word

/-!
# Finding the tags of a comment

A block tag starts its line, behind blanks and the stars that decorate the comment. Its name is a
whole word that starts with an ASCII letter. What follows, without the end of the comment, is the
named parameter or exception and a description. A marker for inherited text may stand anywhere in a
line, also behind a block tag.
-/

namespace JavadocAudit.Tag

open Text

/-- A tag within its line. -/
structure InLine where
  /-- Characters before the at sign. -/
  offset : Nat
  kind : Kind
  name : String
  argument : Option String := none
  description : String := ""
  deriving DecidableEq, Repr

/-- A line without the opening of the comment or the stars that decorate it. -/
def dropDecoration : List Char → List Char
  | '/' :: '*' :: '*' :: rest => rest.dropWhile (· = '*')
  | '*' :: rest => rest.dropWhile (· = '*')
  | cs => cs

/-- A letter that may start the name of a tag. -/
def isNameStart (c : Char) : Bool := ('A' ≤ c && c ≤ 'Z') || ('a' ≤ c && c ≤ 'z')

/-- What is left of a line from its block tag on, at sign included. -/
def fromAtSign (line : List Char) : List Char := trimStart (dropDecoration (trimStart line))

/-- The text without the end of the comment and the blanks around it. -/
def dropClosing (cs : List Char) : List Char :=
  match cs.reverse.dropWhile isBlank with
  | '/' :: '*' :: rest => ((rest.dropWhile (· = '*')).dropWhile isBlank).reverse
  | _ => cs

/-- A text that goes on behind a line feed. -/
def spansLines : List Char → Bool
  | [] => false
  | c :: rest => (c = '\n' && !rest.isEmpty) || spansLines rest

/-- The first word of the text behind a tag's name, and the rest. A rest of several lines is not
read. -/
def splitArgument? (cs : List Char) : Option (List Char × List Char) :=
  let words := trimStart cs
  let rest := trimStart (words.dropWhile (!isBlank ·))
  if words.length = cs.length || words.isEmpty || spansLines rest then none
  else some (words.takeWhile (!isBlank ·), rest)

def blockTag (offset : Nat) (name text : List Char) : InLine :=
  let kind := Kind.ofName (String.ofList name)
  if kind.takesArgument then
    match splitArgument? text with
    | some (argument, rest) =>
      ⟨offset, kind, String.ofList name, some (String.ofList argument), String.ofList (trim rest)⟩
    | none => ⟨offset, .nameless, String.ofList name, none, ""⟩
  else ⟨offset, kind, String.ofList name, none, String.ofList (trim text)⟩

def blockTag? (line : List Char) : Option InLine :=
  match fromAtSign line with
  | '@' :: c :: rest =>
    if isNameStart c then
      some (blockTag (line.length - (rest.length + 2)) (c :: rest.takeWhile isWord)
        (dropClosing (rest.dropWhile isWord)))
    else none
  | _ => none

def inheritName : List Char := "inheritDoc".toList

/-- The distance to the at sign of a marker that the text starts with. -/
def markerStart? : List Char → Option Nat
  | '\x7b' :: rest =>
    match trimStart rest with
    | '@' :: inner =>
      if inheritName.isPrefixOf inner &&
          (trimStart (inner.drop inheritName.length)).head? = some '\x7d' then
        some (rest.length - inner.length)
      else none
    | _ => none
  | _ => none

/-- The markers of a text whose first character has the given offset. -/
def markersFrom (offset : Nat) : List Char → List InLine
  | [] => []
  | c :: rest =>
    match markerStart? (c :: rest) with
    | some distance =>
      ⟨offset + distance, .inheritDoc, String.ofList inheritName, none, ""⟩ ::
        markersFrom (offset + 1) rest
    | none => markersFrom (offset + 1) rest

/-- The tags of a line, in order: a block tag comes before everything else in its line. -/
def ofLine (line : List Char) : List InLine :=
  (blockTag? line).toList ++ markersFrom 0 line

def InLine.place (tag : InLine) (comment : Comment) (index : Nat) : Tag where
  kind := tag.kind
  name := tag.name
  position := comment.position index tag.offset
  argument := tag.argument
  description := tag.description

end JavadocAudit.Tag

namespace JavadocAudit

/-- The block tags and markers of a comment, in order. -/
def Comment.tags (comment : Comment) : List Tag :=
  comment.lines.zipIdx.flatMap fun (line, index) =>
    (Tag.ofLine line.toList).map (·.place comment index)

end JavadocAudit

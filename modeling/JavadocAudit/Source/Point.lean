import JavadocAudit.Position
import JavadocAudit.Text.Line
import JavadocAudit.Text.Utf8

/-!
# Points of a source text

A source text is parsed as bytes in UTF-8. The parser says where something starts by counting line
feeds and bytes, both from zero. What is reported counts lines and characters, both from one, so the
bytes of the line up to a point are decoded and their characters are counted.
-/

namespace JavadocAudit.Source

/-- Where the parser says that something starts. -/
structure Point where
  /-- The number of line feeds before it. -/
  row : Nat
  /-- The number of bytes between the last of them and it. -/
  byte : Nat
  deriving DecidableEq, Repr

namespace Point

def next (point : Point) (c : Char) : Point :=
  if c = '\n' then ⟨point.row + 1, 0⟩ else ⟨point.row, point.byte + c.utf8Size⟩

/-- The point behind some text. -/
def advance (point : Point) (cs : List Char) : Point := cs.foldl next point

end Point

/-- The lines of a source text, each of them in bytes. -/
structure Lines where
  bytes : List (List UInt8)

namespace Lines

def ofText (text : List Char) : Lines := ⟨Text.cutAt 0x0A (Text.encodeUtf8 text)⟩

/-- The position of a point. A point below the last line is in the first column. -/
def position (lines : Lines) (point : Point) : Position :=
  let front := ((lines.bytes[point.row]?).getD []).take point.byte
  ⟨point.row + 1, (Text.decodeUtf8Leniently front).length + 1⟩

end Lines

end JavadocAudit.Source

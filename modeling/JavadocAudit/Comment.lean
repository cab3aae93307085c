import JavadocAudit.Position
import JavadocAudit.Text.Line

/-!
# Documentation comments

A comment is kept as its raw lines, from the opening to the closing one, with the position of its
first character. On the first line columns count from there, on every other line from the start of
the line.
-/

namespace JavadocAudit

/-- The raw lines of a documentation comment. -/
structure Comment where
  lines : List String
  start : Position := ⟨1, 1⟩
  deriving DecidableEq, Repr

namespace Comment

def ofText (text : String) (start : Position) : Comment :=
  ⟨(Text.splitLines text.toList).map String.ofList, start⟩

/-- The position of a character, given its line in the comment and its offset in that line. -/
def position (comment : Comment) (index offset : Nat) : Position :=
  if index = 0 then ⟨comment.start.line, comment.start.column + offset⟩
  else ⟨comment.start.line + index, offset + 1⟩

end Comment

end JavadocAudit

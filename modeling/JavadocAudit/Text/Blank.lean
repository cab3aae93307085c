import JavadocAudit.Text.CodeRanges

/-!
# Blank characters

Blanks separate the words of a comment and are trimmed from descriptions. The class holds the
white space of Unicode and the four information separators, so that a file separator between two
words separates them too.
-/

namespace JavadocAudit.Text

/-- The code points of white space and of the information separators. -/
def blankRanges : CodeRanges := [
  (0x9, 0xD), (0x1C, 0x20), (0x85, 0x85), (0xA0, 0xA0), (0x1680, 0x1680), (0x2000, 0x200A),
  (0x2028, 0x2029), (0x202F, 0x202F), (0x205F, 0x205F), (0x3000, 0x3000)]

def isBlank (c : Char) : Bool := blankRanges.contains c.toNat

/-- White space in the sense of Unicode, which does not have the information separators. -/
def isSpace (c : Char) : Bool := isBlank c && !(0x1C ≤ c.toNat && c.toNat ≤ 0x1F)

/-- What is left of a text without the blanks it starts with. -/
def trimStart (cs : List Char) : List Char := cs.dropWhile isBlank

/-- What is left of a text without the blanks it ends with. -/
def trimEnd (cs : List Char) : List Char := (cs.reverse.dropWhile isBlank).reverse

/-- What is left of a text without the blanks at either end. -/
def trim (cs : List Char) : List Char := trimEnd (trimStart cs)

/-- A line break is a blank. -/
theorem isBlank_newline : isBlank '\n' = true := by decide

/-- A carriage return is a blank. -/
theorem isBlank_return : isBlank '\r' = true := by decide

end JavadocAudit.Text

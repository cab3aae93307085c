import JavadocAudit.Source.Grammar.Construct
import JavadocAudit.Source.Token.Scan

/-!
# Parsers

What can be made out in a source text is up to a parser. Any text can be parsed; where it is not
well-formed, a parser may still make out some of its parts. `Parser.strict` knows the grammar of
Java and gives up on other texts.
-/

namespace JavadocAudit.Source

/-- What a parser makes of a source text. -/
structure Parse where
  parts : List Tree
  /-- The text is not well-formed. -/
  hasErrors : Bool

abbrev Parser := List Char → Parse

def Parser.strict : Parser := fun text =>
  match (Token.scan text).bind parse? with
  | some parts => ⟨parts, false⟩
  | none => ⟨[], true⟩

end JavadocAudit.Source

import JavadocAudit.Position

/-!
# Tags

A documentation comment describes parameters, results and exceptions by block tags, and takes over
inherited text by an inline marker.
-/

namespace JavadocAudit

inductive Tag.Kind where
  | param
  | result
  | throws
  /-- The marker for inherited text. -/
  | inheritDoc
  /-- A block tag with any other name. -/
  | other
  /-- A tag for a parameter or an exception that names none. -/
  | nameless
  deriving DecidableEq, Repr

structure Tag where
  kind : Tag.Kind
  /-- The name behind the at sign, as written. -/
  name : String
  /-- Where the at sign stands. -/
  position : Position
  /-- The parameter or exception that the tag names. -/
  argument : Option String := none
  description : String := ""
  deriving DecidableEq, Repr

def Tag.Kind.ofName : String → Tag.Kind
  | "param" => .param
  | "return" => .result
  | "throws" => .throws
  | "exception" => .throws
  | _ => .other

/-- Tags of this kind name something. -/
def Tag.Kind.takesArgument : Tag.Kind → Bool
  | .param | .throws => true
  | _ => false

end JavadocAudit

import JavadocAudit.Pattern.Reader

/-!
# Patterns

A pattern is a regular expression together with the text it was read from. Names are always
compared with a pattern as a whole.
-/

namespace JavadocAudit

/-- A regular expression as it was written. -/
structure Pattern where
  source : String
  expr : Pattern.Expr
  deriving DecidableEq, Repr

namespace Pattern

def ofString (source : String) : Except Fault Pattern := do
  match tokens? source.toList with
  | none => throw .malformed
  | some rest =>
    let (expr, _) ← expression.run { rest }
    return ⟨source, expr⟩

def covers (pattern : Pattern) (name : String) : Bool := pattern.expr.matchesWhole name

end Pattern

end JavadocAudit

import JavadocAudit.Diagnostic.Basic
import JavadocAudit.Glob

/-!
# Suppressions

Diagnostics can be silenced by file: all of them, or those of certain kinds.
-/

namespace JavadocAudit

/-- Silences diagnostics in the files that a shell pattern covers. -/
structure Suppression where
  files : String
  /-- The kinds that are silenced; none means all. -/
  kinds : List Diagnostic.Kind := []
  deriving DecidableEq, Repr

namespace Suppression

def silences (suppression : Suppression) (path : String) (kind : Diagnostic.Kind) : Bool :=
  Glob.covers suppression.files path &&
    (suppression.kinds.isEmpty || suppression.kinds.contains kind)

def anySilences (suppressions : List Suppression) (path : String) (kind : Diagnostic.Kind) : Bool :=
  suppressions.any (·.silences path kind)

end Suppression

end JavadocAudit

import JavadocAudit.ClassTable.Standard
import JavadocAudit.Pattern.Basic
import JavadocAudit.Signature

/-!
# Settings

What is checked, and what is forgiven. The defaults check everything and forgive only that an
overriding method has no comment of its own.
-/

namespace JavadocAudit

/-- The options of a check. -/
structure Settings where
  allowNarrativeParams : Bool := false
  allowNarrativeReturn : Bool := false
  /-- Parameters with such names need no description. -/
  unusedParams : Option Pattern := none
  /-- Methods with such names need no comment. -/
  ignoredMethods : Option Pattern := none
  allowMissingParams : Bool := false
  allowMissingReturn : Bool := false
  allowMissingThrows : Bool := false
  /-- Unchecked exceptions may be documented without being declared. -/
  allowUndeclaredUnchecked : Bool := false
  allowMissingComment : Bool := false
  /-- Methods with fewer lines need no comment, unless the number is negative. -/
  minLineCount : Int := -1
  /-- Methods with one of these annotations need no comment. -/
  allowedAnnotations : List String := ["Override"]
  scope : Visibility := .privateAccess
  excludeScope : Option Visibility := none
  /-- Further exception classes with their superclasses. -/
  exceptionHierarchy : Dict String (Option String) := []

namespace Settings

/-- Whether declarations with the visibility of this name are checked; `none` if there is no such
visibility. -/
def inScopeNamed? (settings : Settings) (name : String) : Option Bool :=
  (Visibility.ofName? name).map fun visibility =>
    visibility.within settings.scope && !settings.excludeScope.any (visibility.within ·)

def inScope (settings : Settings) (visibility : Visibility) : Bool :=
  settings.inScopeNamed? visibility.name == some true

/-- Every visibility has a name for which there is an answer. -/
theorem inScopeNamed?_name (settings : Settings) (visibility : Visibility) :
    settings.inScopeNamed? visibility.name = some (settings.inScope visibility) := by
  simp [inScope, inScopeNamed?]

/-- A parameter of this name needs no description. -/
def isUnusedParam (settings : Settings) (name : String) : Bool :=
  settings.unusedParams.any (·.covers (Parameter.stripBrackets name))

/-- A method or constructor that needs no comment. -/
def mayLackComment (settings : Settings) (signature : Signature) : Bool :=
  settings.allowMissingComment
    || (0 ≤ settings.minLineCount && signature.bodyLineCount < settings.minLineCount)
    || settings.ignoredMethods.any (·.covers signature.name)
    || signature.annotations.any settings.allowedAnnotations.contains

def classTable (settings : Settings) : ClassTable := .withStandard settings.exceptionHierarchy

end Settings

end JavadocAudit

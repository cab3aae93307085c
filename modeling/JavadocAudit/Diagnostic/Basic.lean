import JavadocAudit.Position

/-!
# Diagnostics

A diagnostic is one finding at one position. Its arguments are the names that its message shows.
-/

namespace JavadocAudit

/-- What can be wrong with a documentation comment. -/
inductive Diagnostic.Kind where
  | missingJavadoc
  | invalidInheritDoc
  | expectedParam
  | expectedReturn
  | expectedThrows
  | duplicateTag
  | unusedTag
  | mixedStyle
  deriving DecidableEq, Repr

/-- A finding at a position. -/
structure Diagnostic where
  kind : Diagnostic.Kind
  position : Position
  args : List String := []
  deriving DecidableEq, Repr

namespace Diagnostic.Kind

/-- The name of a kind in configuration files. -/
def name : Kind → String
  | missingJavadoc => "MissingJavadoc"
  | invalidInheritDoc => "InvalidInheritDoc"
  | expectedParam => "ExpectedParamTag"
  | expectedReturn => "ExpectedReturnTag"
  | expectedThrows => "ExpectedThrowsTag"
  | duplicateTag => "DuplicateTag"
  | unusedTag => "UnusedTag"
  | mixedStyle => "MixedDocumentationStyle"

def all : List Kind :=
  [missingJavadoc, invalidInheritDoc, expectedParam, expectedReturn, expectedThrows, duplicateTag,
    unusedTag, mixedStyle]

def ofName? (s : String) : Option Kind := all.find? (·.name = s)

end Diagnostic.Kind

end JavadocAudit

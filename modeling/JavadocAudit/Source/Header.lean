import JavadocAudit.ClassTable.Basic
import JavadocAudit.Source.Tree

/-!
# The header of a source file

The package and the imports of a file decide what the names in it stand for.
-/

namespace JavadocAudit.Source

def Tree.declaredName? (tree : Tree) : Option String := (tree.child? .name).map Tree.text

/-- The lines of a file before its types. -/
structure Header where
  package : Option String := none
  imports : Dict String String := []
  onDemand : List String := []
  deriving DecidableEq, Repr

namespace Header

/-- The header after one more part of the file. Static imports name no types. -/
def add (header : Header) (part : Tree) : Header :=
  match part.declaredName? with
  | none => header
  | some name =>
    if part.isNode .package then { header with package := some name }
    else if part.isNode .importLine && !part.hasWord "static" then
      if part.hasSymbol "*" then { header with onDemand := header.onDemand ++ [name] }
      else { header with imports := header.imports.insert (simpleName name) name }
    else header

def ofParts (parts : List Tree) : Header := parts.foldl add {}

/-- The scope of names inside a chain of types. -/
def scope (header : Header) (enclosing : List String) : NameScope :=
  ⟨header.package, header.imports, header.onDemand, enclosing⟩

/-- The qualified name of a type inside a chain of types. -/
def qualify (header : Header) (enclosing : List String) (name : String) : String :=
  match enclosing.getLast? with
  | some outer => ClassTable.qualify outer name
  | none =>
    match header.package with
    | some package => if package.isEmpty then name else ClassTable.qualify package name
    | none => name

end Header

end JavadocAudit.Source

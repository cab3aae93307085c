import JavadocAudit.Dict
import JavadocAudit.Signature

/-!
# Class tables

There is no whole program to look classes up in. What is known about them is a table from qualified
names to superclasses, in which a name may be missing, a superclass unknown, and a chain of
superclasses even a cycle.
-/

namespace JavadocAudit

/-- A class with its direct superclass, if it has one. -/
structure ClassInfo where
  name : String
  superclass : Option String := none
  deriving DecidableEq, Repr

/-- Qualified names of classes with those of their superclasses. -/
structure ClassTable where
  classes : Dict String (Option String)
  deriving DecidableEq, Repr

/-- What follows the last dot of a name. -/
def simpleName (name : String) : String :=
  String.ofList (name.toList.reverse.takeWhile (· ≠ '.')).reverse

def isDotted (name : String) : Bool := name.toList.contains '.'

namespace ClassTable

/-- The superclass of a class in the table; `some none` for a class without one. -/
def superclass? (table : ClassTable) (name : String) : Option (Option String) :=
  table.classes.get? name

/-- The next class up the chain. -/
def parent? (table : ClassTable) (name : String) : Option String := (table.superclass? name).join

/-- A class that the table has. -/
def knows (table : ClassTable) (name : String) : Bool := (table.superclass? name).isSome

/-- The table with classes added or given another superclass. -/
def withClasses (table : ClassTable) (more : Dict String (Option String)) : ClassTable :=
  ⟨table.classes.merge more⟩

/-- The first `count` classes of the chain that starts at a name. -/
def chain (table : ClassTable) : Nat → String → List String
  | 0, _ => []
  | count + 1, name =>
    name :: match table.parent? name with
      | some parent => chain table count parent
      | none => []

/-- One class is the other or extends it, directly or not. Without a repetition a chain is no
longer than the table, and one class more for the end of it. -/
def isSubtype (table : ClassTable) (sub sup : String) : Bool :=
  (table.chain (table.classes.length + 1) sub).contains sup

/-- The classes whose subclasses need not be declared. -/
def uncheckedRoots : List String := ["java.lang.RuntimeException", "java.lang.Error"]

/-- A class whose objects may be thrown without being declared. -/
def isUnchecked (table : ClassTable) (name : String) : Bool :=
  uncheckedRoots.any (table.isSubtype name)

/-- A name up to its first dot, and what follows the dot. -/
def splitHead (name : String) : String × String :=
  let cs := name.toList
  (String.ofList (cs.takeWhile (· ≠ '.')), String.ofList (cs.dropWhile (· ≠ '.')).tail)

/-- A name behind another one and a dot. -/
def qualify (outer name : String) : String := outer ++ "." ++ name

/-- What an imported name stands for: the imported class, or a member of it. -/
def imported? (scope : NameScope) (name : String) : Option String :=
  let (head, tail) := splitHead name
  (scope.imports.get? head).map fun target => if tail.isEmpty then target else qualify target tail

/-- The qualified names that a name may stand for, the closest first: member types of the enclosing
types from the inside out, the import, the package, the name itself, the packages imported on
demand, and the language's own package. -/
def candidates (name : String) : Option NameScope → List String
  | none => [name, qualify "java.lang" name]
  | some scope =>
    (scope.enclosing.reverse.map fun outer => qualify outer name)
      ++ (imported? scope name).toList
      ++ (scope.package.filter fun package => !package.isEmpty).toList.map (fun p => qualify p name)
      ++ [name]
      ++ (scope.onDemand.map fun package => qualify package name)
      ++ [qualify "java.lang" name]

def resolve (table : ClassTable) (name : String) (scope : Option NameScope) : Option ClassInfo :=
  (candidates name scope).findSome? fun candidate =>
    (table.superclass? candidate).map (⟨candidate, ·⟩)

end ClassTable

end JavadocAudit

import JavadocAudit.Dict
import JavadocAudit.Position

/-!
# Declarations to be checked

What a host tells about a method or constructor: its parameters, result and exceptions, its
modifiers, and the scope in which the names of exceptions are looked up.
-/

namespace JavadocAudit

/-- Who can see a member. -/
inductive Visibility where
  | publicAccess
  | protectedAccess
  | packageAccess
  | privateAccess
  deriving DecidableEq, Repr

namespace Visibility

/-- How far down the list of visibilities a member is, the most visible first. -/
def rank : Visibility → Nat
  | publicAccess => 0
  | protectedAccess => 1
  | packageAccess => 2
  | privateAccess => 3

def name : Visibility → String
  | publicAccess => "public"
  | protectedAccess => "protected"
  | packageAccess => "package"
  | privateAccess => "private"

def ofName? : String → Option Visibility
  | "public" => some publicAccess
  | "protected" => some protectedAccess
  | "package" => some packageAccess
  | "private" => some privateAccess
  | _ => none

@[simp] theorem ofName?_name (v : Visibility) : ofName? v.name = some v := by
  cases v <;> rfl

/-- A member that can be seen at least as widely as `scope`. -/
def within (v scope : Visibility) : Bool := v.rank ≤ scope.rank

end Visibility

/-- A value or type parameter. -/
structure Parameter where
  name : String
  isType : Bool := false
  line : Option Int := none
  column : Option Int := none
  deriving DecidableEq, Repr

namespace Parameter

/-- A text without the angle brackets around it. -/
def stripBrackets (s : String) : String :=
  let isBracket (c : Char) : Bool := c = '<' || c = '>'
  String.ofList ((s.toList.dropWhile isBracket).reverse.dropWhile isBracket).reverse

def bareName (p : Parameter) : String := stripBrackets p.name

/-- The name as a tag gives it: type parameters stand in angle brackets. -/
def tagName (p : Parameter) : String :=
  if p.isType then "<" ++ p.bareName ++ ">" else p.name

end Parameter

structure ThrownType where
  name : String
  line : Option Int := none
  column : Option Int := none
  deriving DecidableEq, Repr

/-- Where a declaration lives, for looking up names that are not fully qualified. -/
structure NameScope where
  package : Option String := none
  /-- Qualified names of imported types, by simple name. -/
  imports : Dict String String := []
  /-- Packages of which all types are imported. -/
  onDemand : List String := []
  /-- Qualified names of the enclosing types, outermost first. -/
  enclosing : List String := []
  deriving DecidableEq, Repr

/-- A method or constructor. -/
structure Signature where
  name : String
  position : Position
  parameters : List Parameter := []
  typeParameters : List Parameter := []
  exceptions : List ThrownType := []
  returnsValue : Bool := false
  isConstructor : Bool := false
  visibility : Visibility := .publicAccess
  isStatic : Bool := false
  /-- Simple names, without the at sign. -/
  annotations : List String := []
  bodyLineCount : Int := 0
  scope : Option NameScope := none
  deriving DecidableEq, Repr

/-- Text can only be inherited by instance methods that can be overridden. -/
def Signature.mayInheritDoc (signature : Signature) : Bool :=
  !(signature.isConstructor || signature.isStatic || signature.visibility = .privateAccess)

end JavadocAudit

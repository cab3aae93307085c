import JavadocAudit.Resolver

/-!
# Matching documented with declared exceptions

A documented exception belongs to the first declared one that names the same class. Names are the
same if both are resolved to one class; if one of them is not resolved, their texts decide, where a
simple name may stand for a qualified one. Failing that, it belongs to a declared exception that it
extends or that extends it, and to one that nothing has been matched with so far if there is any.
-/

namespace JavadocAudit

/-- A declared exception, and whether a tag has been matched with it. -/
structure Declared (α : Type) where
  name : String
  resolved : Option (Handle α) := none
  found : Bool := false
  line : Option Int := none
  column : Option Int := none

namespace Declared

variable {α : Type}

/-- Two names have the same text, or one is the simple name of the other. -/
def sameText (a b : String) : Bool :=
  a == b || (isDotted a != isDotted b && simpleName a == simpleName b)

def isNamedBy (declared : Declared α) (documented : String) (resolved : Option (Handle α)) : Bool :=
  match resolved.bind Handle.info?, declared.resolved.bind Handle.info? with
  | some a, some b => a.name == b.name
  | _, _ => sameText documented declared.name

/-- A documented class is related to the declared one by inheritance. -/
def isRelatedTo (resolver : Resolver α) (resolved : Handle α) (declared : Declared α) : Bool :=
  match declared.resolved with
  | some (.known info) => resolver.related resolved (.known info)
  | _ => false

/-- The place of the first declared exception that passes a test. -/
def index? (test : Declared α → Bool) (declared : List (Declared α)) : Option Nat :=
  declared.findIdx? test

/-- The place of the declared exception that a documented one belongs to. -/
def match? (resolver : Resolver α) (documented : String) (resolved : Option (Handle α))
    (declared : List (Declared α)) : Option Nat :=
  match index? (·.isNamedBy documented resolved) declared with
  | some place => some place
  | none =>
    match resolved with
    | none => none
    | some handle =>
      match index? (fun d => !d.found && isRelatedTo resolver handle d) declared with
      | some place => some place
      | none => index? (fun d => d.found && isRelatedTo resolver handle d) declared

def markFound (declared : List (Declared α)) (place : Nat) : List (Declared α) :=
  declared.modify place fun d => { d with found := true }

end Declared

end JavadocAudit

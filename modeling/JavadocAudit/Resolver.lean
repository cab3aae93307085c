import JavadocAudit.ClassTable.Basic

/-!
# Looking classes up

Exceptions are looked up through a record of functions, each of which may fail. A look-up may also
give a handle that is foreign to this library: such a handle can be compared with classes by the
functions that made it, and with nothing else. A failure never goes further than the question it
answers: an unresolvable name is an unknown class, and a class of unknown kind counts as checked.
-/

namespace JavadocAudit

inductive LookupFailure where
  | unavailable
  deriving DecidableEq, Repr

/-- What a look-up gives: a class, or a foreign handle. -/
inductive Handle (α : Type) where
  | known (info : ClassInfo)
  | foreign (handle : α)
  deriving DecidableEq, Repr

/-- The class of a handle that is not foreign. -/
def Handle.info? {α : Type} : Handle α → Option ClassInfo
  | known info => some info
  | foreign _ => none

/-- The look-ups that checking exceptions needs. -/
structure Resolver (α : Type) where
  resolve : String → Option NameScope → Except LookupFailure (Option (Handle α))
  isSubtype : Handle α → Handle α → Except LookupFailure Bool
  isUnchecked : ClassInfo → Except LookupFailure Bool

namespace Resolver

variable {α : Type}

/-- The class that a name stands for, unknown if the look-up fails. -/
def resolveQuietly (resolver : Resolver α) (name : String) (scope : Option NameScope) :
    Option (Handle α) :=
  match resolver.resolve name scope with
  | .ok found => found
  | .error _ => none

def isUncheckedQuietly (resolver : Resolver α) (info : ClassInfo) : Bool :=
  match resolver.isUnchecked info with
  | .ok verdict => verdict
  | .error _ => false

/-- One of two classes is known to extend the other. If the first look-up fails, the second is not
made. -/
def related (resolver : Resolver α) (a b : Handle α) : Bool :=
  match resolver.isSubtype a b with
  | .ok true => true
  | .ok false =>
    match resolver.isSubtype b a with
    | .ok verdict => verdict
    | .error _ => false
  | .error _ => false

end Resolver

/-- Look-ups in a class table never fail and give no foreign handles. -/
def ClassTable.resolver (table : ClassTable) : Resolver Empty where
  resolve name scope := .ok ((table.resolve name scope).map .known)
  isSubtype
    | .known sub, .known sup => .ok (table.isSubtype sub.name sup.name)
  isUnchecked info := .ok (table.isUnchecked info.name)

end JavadocAudit

import JavadocAudit.Text.Blank
import JavadocAudit.Text.Case
import JavadocAudit.Text.Digit
import JavadocAudit.Text.Word

/-!
# Regular expressions

The settings choose names by regular expressions with groups, back references, assertions and
modes. Every node carries the modes that are in force where it stands, so that an expression means
the same wherever it is used.
-/

namespace JavadocAudit.Pattern

/-- How characters and anchors are read in a part of an expression. -/
structure Mode where
  ignoreCase : Bool := false
  multiline : Bool := false
  dotAll : Bool := false
  /-- White space in the expression is layout. -/
  verbose : Bool := false
  /-- Classes and case know the ASCII characters only. -/
  ascii : Bool := false
  deriving DecidableEq, Repr

/-- A class with a letter of its own. -/
inductive Category where
  | digit
  | blank
  | word
  deriving DecidableEq, Repr

/-- A member of a bracketed set, in code points. -/
inductive SetItem where
  | one (code : Nat)
  | range (low high : Nat)
  | category (kind : Category) (negated : Bool)
  deriving DecidableEq, Repr

/-- An assertion about a place between characters. -/
inductive Anchor where
  | lineStart
  | lineEnd
  | textStart
  | textEnd
  | wordBoundary
  | noWordBoundary
  deriving DecidableEq, Repr

/-- Which number of repetitions is tried first, and whether others are tried at all. -/
inductive Greed where
  | most
  | fewest
  /-- As many as there are, and never fewer. -/
  | possessive
  deriving DecidableEq, Repr

/-- The least and the greatest length of a match; `none` is without bound. -/
structure Width where
  low : Nat
  high : Option Nat
  deriving DecidableEq, Repr

inductive Expr where
  | empty
  | any (mode : Mode)
  | char (mode : Mode) (code : Nat)
  | set (mode : Mode) (negated : Bool) (items : List SetItem)
  | anchor (mode : Mode) (kind : Anchor)
  | seq (first second : Expr)
  | alt (first second : Expr)
  | repeated (low : Nat) (high : Option Nat) (greed : Greed) (body : Expr)
  /-- A group, with its number if it captures. -/
  | group (number : Option Nat) (body : Expr)
  /-- A group that is matched in one way only. -/
  | atomic (body : Expr)
  | ahead (negated : Bool) (body : Expr)
  /-- Looks at the `width` characters before the place. -/
  | behind (negated : Bool) (width : Nat) (body : Expr)
  /-- What the group captured, whose match has the given width. -/
  | reference (mode : Mode) (number : Nat) (width : Width)
  /-- Depends on whether the group has captured anything. -/
  | ifGroup (number : Nat) (yes no : Expr)
  deriving DecidableEq, Repr

namespace Width

def exactly (n : Nat) : Width := ⟨n, some n⟩

def add (a b : Width) : Width :=
  ⟨a.low + b.low, do return (← a.high) + (← b.high)⟩

def union (a b : Width) : Width :=
  ⟨min a.low b.low, do return max (← a.high) (← b.high)⟩

def times (w : Width) (low : Nat) (high : Option Nat) : Width :=
  ⟨w.low * low,
    if w.high = some 0 then some 0 else do return (← w.high) * (← high)⟩

end Width

/-- The lengths that matches of an expression can have. -/
def Expr.width : Expr → Width
  | .empty | .anchor .. | .ahead .. | .behind .. => .exactly 0
  | .any _ | .char .. | .set .. => .exactly 1
  | .seq a b => a.width.add b.width
  | .alt a b => a.width.union b.width
  | .repeated low high _ body => body.width.times low high
  | .group _ body | .atomic body => body.width
  | .reference _ _ width => width
  | .ifGroup _ yes no => yes.width.union no.width

/-- A code point that belongs to a class. -/
def Category.contains (kind : Category) (ascii : Bool) (code : Nat) : Bool :=
  let c := Char.ofNat code
  (!ascii || code < 128) &&
    match kind with
    | .digit => Text.isDigit c
    | .blank => if ascii then code == 32 || (9 ≤ code && code ≤ 13) else Text.isBlank c
    | .word => Text.isWord c

def lowerAscii (code : Nat) : Nat := if 65 ≤ code && code ≤ 90 then code + 32 else code

/-- The code points that a mode does not tell apart from `code`. -/
def Mode.variants (mode : Mode) (code : Nat) : List Nat :=
  if !mode.ignoreCase then [code]
  else if mode.ascii then
    let small := lowerAscii code
    if 97 ≤ small && small ≤ 122 then [small, small - 32] else [small]
  else Text.caseVariants code

/-- A member of a set that covers a code point. Where case is ignored, a single character above the
sixteen-bit range is compared with the lower case only. -/
def SetItem.covers (mode : Mode) (item : SetItem) (code : Nat) : Bool :=
  match item with
  | .one member =>
    if mode.ignoreCase && !mode.ascii && 0x10000 ≤ member then Text.lowerCode code == member
    else (mode.variants code).contains member
  | .range low high => (mode.variants code).any fun x => low ≤ x && x ≤ high
  | .category kind negated => kind.contains mode.ascii code != negated

end JavadocAudit.Pattern

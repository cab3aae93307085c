import JavadocAudit.Document.Fault
import JavadocAudit.Number.Decimal
import JavadocAudit.Text.Case
import JavadocAudit.Text.Integer
import JavadocAudit.Text.Line

/-!
# Numbers in a document

Underscores in numbers do not count. Colons divide the digits of a number to the base of sixty.
-/

namespace JavadocAudit.Document.Number

def parts (cs : List Char) : List (List Char) := Text.cutAt ':' cs

/-- A number that is missing or not one. -/
def required {α : Type} : Option α → Reading α
  | some a => return a
  | none => throw .badNumber

/-- A whole number without its sign. -/
def magnitude (cs : List Char) : Reading Int := do
  match cs with
  | [] => throw .emptyNumber
  | ['0'] => return 0
  | '0' :: 'b' :: rest => required (integerToBase? 2 'b' rest)
  | '0' :: 'x' :: rest => required (integerToBase? 16 'x' rest)
  | '0' :: _ => required (integerToBase? 8 'o' cs)
  | _ =>
    if cs.contains ':' then
      let digits ← (parts cs).mapM fun part => required (Text.integer? part)
      return digits.foldl (60 * · + ·) 0
    else required (Text.integer? cs)

/-- The whole number that a scalar stands for. -/
def int (text : String) : Reading Int := do
  let cs := text.toList.filter (· ≠ '_')
  if cs.isEmpty then throw .emptyNumber
  let (negative, body) := splitSign cs
  let n ← magnitude body
  return if negative then -n else n

/-- The sum of digits to the base of sixty, the last one first. -/
def sixtieths : Nat → List Binary64 → Binary64 → Reading Binary64
  | _, [], total => return total
  | base, digit :: others, total => do
    let place := Binary64.ofRatio false base 1
    if place = .infinite false then throw .numberTooLarge
    sixtieths (60 * base) others (total.add (digit.mul place))

/-- The number with a fraction that a scalar stands for. -/
def float (text : String) : Reading Binary64 := do
  let cs := Text.lower (text.toList.filter (· ≠ '_'))
  if cs.isEmpty then throw .emptyNumber
  let (negative, body) := splitSign cs
  let word := String.ofList body
  if word = ".inf" then return .infinite negative
  if word = ".nan" then return .nan
  if body.contains ':' then
    let digits ← (parts body).mapM fun part => required (Binary64.ofText? part)
    return (← sixtieths 1 digits.reverse (.finite false 0 0)).negateIf negative
  return (← required (Binary64.ofText? body)).negateIf negative

end JavadocAudit.Document.Number

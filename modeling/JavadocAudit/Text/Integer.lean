import JavadocAudit.Text.Blank
import JavadocAudit.Text.Digit

/-!
# Whole numbers in text

A whole number is written with an optional sign and decimal digits of any script. Blanks around it
do not count, and a single underscore may stand between two digits.
-/

namespace JavadocAudit.Text

/-- The most digits that a decimal number may have. -/
def maxDecimalDigits : Nat := 4300

/-- The values of digits with single underscores between them. -/
def digitGroup? : List Char → Option (List Nat)
  | [] => none
  | [c] => (digitValue? c).map ([·])
  | c :: '_' :: rest => do return (← digitValue? c) :: (← digitGroup? rest)
  | c :: rest => do return (← digitValue? c) :: (← digitGroup? rest)

/-- The whole number that a text stands for. -/
def integer? (cs : List Char) : Option Int := do
  let (negative, digits) := match trim cs with
    | '-' :: rest => (true, rest)
    | '+' :: rest => (false, rest)
    | rest => (false, rest)
  let values ← digitGroup? digits
  if maxDecimalDigits < values.length then none
  else
    let n : Int := ofDigits 10 values
    return if negative then -n else n

end JavadocAudit.Text

import JavadocAudit.Number.Binary64
import JavadocAudit.Text.Blank
import JavadocAudit.Text.Digit

/-!
# Numbers in decimal and other notations

A number with a fraction is written with a decimal point, an exponent, both or neither, or as one of
the words for the infinite and for what is no number. Whole numbers can also be written to a base
that is a power of two, where a letter behind a zero may name the base.
-/

namespace JavadocAudit

/-- A text without its sign, and whether the sign is a minus. -/
def splitSign : List Char → Bool × List Char
  | '-' :: rest => (true, rest)
  | '+' :: rest => (false, rest)
  | cs => (false, cs)

/-- The values of the decimal digits at the start of a text, and the rest. -/
def leadingDigits : List Char → List Nat × List Char
  | [] => ([], [])
  | c :: rest =>
    match Text.digitValue? c with
    | some d =>
      let (digits, rest) := leadingDigits rest
      (d :: digits, rest)
    | none => ([], c :: rest)

namespace Binary64

/-- An exponent up to the end of the text, or nothing. -/
def exponent? : List Char → Option Int
  | [] => some 0
  | e :: rest =>
    if e ≠ 'e' && e ≠ 'E' then none
    else
      let (negative, rest) := splitSign rest
      match leadingDigits rest with
      | ([], _) => none
      | (digits, []) =>
        let n : Int := Text.ofDigits 10 digits
        some (if negative then -n else n)
      | _ => none

/-- A number without a sign. -/
def magnitude? (negative : Bool) (cs : List Char) : Option Binary64 := do
  let (whole, rest) := leadingDigits cs
  let (fraction, rest) := match rest with
    | '.' :: rest => leadingDigits rest
    | _ => ([], rest)
  if whole.isEmpty && fraction.isEmpty then none
  let exponent ← exponent? rest
  return ofDecimal negative (Text.ofDigits 10 (whole ++ fraction)) (exponent - fraction.length)

/-- The number that a text stands for, with blanks around it. -/
def ofText? (cs : List Char) : Option Binary64 :=
  let (negative, body) := splitSign (Text.trim cs)
  let word := String.ofList (body.map Char.toLower)
  if word = "inf" || word = "infinity" then some (.infinite negative)
  else if word = "nan" then some .nan
  else magnitude? negative body

end Binary64

/-- The value of a digit in a notation with more than ten digits. -/
def wideDigit? (c : Char) : Option Nat :=
  if 'a' ≤ c && c ≤ 'z' then some (c.toNat - 87)
  else if 'A' ≤ c && c ≤ 'Z' then some (c.toNat - 55)
  else Text.digitValue? c

/-- A text without the mark of a base. -/
def stripBase (letter : Char) : List Char → List Char
  | '0' :: c :: rest => if c.toLower = letter then rest else '0' :: c :: rest
  | cs => cs

/-- The whole number that a text stands for in a notation whose base has a letter. -/
def integerToBase? (base : Nat) (letter : Char) (cs : List Char) : Option Int := do
  let (negative, body) := splitSign (Text.trim cs)
  let digits ← (stripBase letter body).mapM wideDigit?
  if digits.isEmpty || digits.any (base ≤ ·) then none
  let n : Int := Text.ofDigits base digits
  return if negative then -n else n

end JavadocAudit

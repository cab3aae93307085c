import JavadocAudit.Number.Binary64

/-!
# The shortest decimal text of a number

A number in double precision is written with the fewest digits that read back as the same number.
For one digit, two digits and so on, the two decimal neighbours of the number are tried; seventeen
digits always suffice.
-/

namespace JavadocAudit.Binary64

/-- The decimal exponent of a positive quotient: `10 ^ e ≤ num / den < 10 ^ (e + 1)`. -/
def decimalExponent (num den : Nat) : Int :=
  -- 30103 / 100000 is the logarithm of two, so the guess is off by one at most in each direction.
  let guess : Int := ((num.log2 : Int) - den.log2) * 30103 / 100000
  let atLeast (e : Int) : Bool :=
    if 0 ≤ e then den * Nat.pow 10 e.toNat ≤ num else den ≤ num * Nat.pow 10 (-e).toNat
  ([guess + 2, guess + 1, guess, guess - 1, guess - 2].find? atLeast).getD (guess - 2)

/-- The quotient on the grid of `digits` significant digits: its floor, and whether the ceiling is
nearer. -/
def onGrid (num den : Nat) (unit : Int) : Nat × Bool :=
  let (n, d) :=
    if 0 ≤ unit then (num, den * Nat.pow 10 unit.toNat) else (num * Nat.pow 10 (-unit).toNat, den)
  (n / d, d < 2 * (n % d) || (2 * (n % d) = d && n / d % 2 = 1))

/-- The fewest digits that read back as the number, with the exponent of the last of them. -/
def shortest (mantissa : Nat) (exponent : Int) : Nat × Int :=
  let (num, den) := ratio mantissa exponent
  let lead := decimalExponent num den
  let readsBack (digits : Nat) (unit : Int) : Bool :=
    match ofDecimal false digits unit with
    | .finite _ m e => ratio m e = (num, den) || (ratio m e).1 * den = num * (ratio m e).2
    | _ => false
  let candidates := (List.range 17).flatMap fun (count : Nat) =>
    let unit : Int := lead - count
    let (floor, up) := onGrid num den unit
    (if up then [floor + 1, floor] else [floor, floor + 1]).map (·, unit)
  (candidates.find? fun (digits, unit) => readsBack digits unit).getD (0, 0)

/-- Digits without the zeros at their end, and how many these were. -/
def dropZeros : Nat → Nat → Nat × Nat
  | 0, digits => (digits, 0)
  | fuel + 1, digits =>
    if digits ≠ 0 && digits % 10 = 0 then
      let (rest, count) := dropZeros fuel (digits / 10)
      (rest, count + 1)
    else (digits, 0)

/-- The text of digits with a decimal point after the first `place` of them. -/
def pointed (digits : List Char) (place : Int) : List Char :=
  if place ≤ 0 then '0' :: '.' :: List.replicate (-place).toNat '0' ++ digits
  else
    let whole := digits.take place.toNat
    let pad := List.replicate (place.toNat - digits.length) '0'
    let fraction := digits.drop place.toNat
    whole ++ pad ++ '.' :: (if fraction.isEmpty then ['0'] else fraction)

/-- The text of a number: positional from a ten-thousandth up to sixteen digits, otherwise with an
exponent of at least two digits. -/
def text : Binary64 → String
  | .nan => "nan"
  | .infinite negative => if negative then "-inf" else "inf"
  | .finite negative mantissa exponent =>
    let sign := if negative then "-" else ""
    if mantissa = 0 then sign ++ "0.0"
    else
      let (all, unit) := shortest mantissa exponent
      let (digits, zeros) := dropZeros 20 all
      let cs := Nat.toDigits 10 digits
      let place : Int := cs.length + unit + zeros
      if -4 < place && place ≤ 16 then sign ++ String.ofList (pointed cs place)
      else
        let power := place - 1
        let body := match cs with
          | [c] => [c]
          | c :: rest => c :: '.' :: rest
          | [] => []
        let powerDigits := Nat.toDigits 10 power.natAbs
        let padded := if powerDigits.length < 2 then '0' :: powerDigits else powerDigits
        sign ++ String.ofList (body ++ 'e' :: (if power < 0 then '-' else '+') :: padded)

end JavadocAudit.Binary64

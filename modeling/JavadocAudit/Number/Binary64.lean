/-!
# Binary floating-point numbers

Numbers with a fractional part are kept in double precision: 53 binary digits and a binary exponent.
They are exact rational numbers, and every operation is exact arithmetic followed by one rounding to
the nearest representable number, where a tie goes to the even one.
-/

namespace JavadocAudit

/-- A number in double precision: `mantissa` times the `exponent`-th power of two. -/
inductive Binary64 where
  | nan
  | infinite (negative : Bool)
  | finite (negative : Bool) (mantissa : Nat) (exponent : Int)
  deriving DecidableEq, Repr

namespace Binary64

/-- A quotient rounded to the nearest whole number, a tie to the even one. -/
def roundDiv (num den : Nat) : Nat :=
  let q := num / den
  let twice := 2 * (num % den)
  if den < twice || (twice = den && q % 2 = 1) then q + 1 else q

/-- The quotient of `num` and `den * 2 ^ exponent`, rounded to a whole number. -/
def scaledQuotient (num den : Nat) (exponent : Int) : Nat :=
  if 0 ≤ exponent then roundDiv num (den * Nat.pow 2 exponent.toNat)
  else roundDiv (num * Nat.pow 2 (-exponent).toNat) den

def minExponent : Int := -1074

def maxExponent : Int := 971

/-- The representable number nearest to a quotient. -/
def ofRatio (negative : Bool) (num den : Nat) : Binary64 :=
  if num = 0 then .finite negative 0 0
  else
    let guess : Int := max minExponent ((num.log2 : Int) - den.log2 - 53)
    -- The quotient lies within a factor of two of the guess, so one of three exponents leaves 53
    -- digits.
    let exponent :=
      [guess, guess + 1, guess + 2].find? fun e => scaledQuotient num den e < Nat.pow 2 53
    match exponent with
    | none => .infinite negative
    | some e =>
      if maxExponent < e then .infinite negative
      else .finite negative (scaledQuotient num den e) e

/-- The representable number nearest to `mantissa * 10 ^ exponent`. -/
def ofDecimal (negative : Bool) (mantissa : Nat) (exponent : Int) : Binary64 :=
  if mantissa = 0 then .finite negative 0 0
  else if 400 < exponent then .infinite negative
  else if exponent < -400 - (mantissa.log2 : Int) then .finite negative 0 0
  else if 0 ≤ exponent then ofRatio negative (mantissa * Nat.pow 10 exponent.toNat) 1
  else ofRatio negative mantissa (Nat.pow 10 (-exponent).toNat)

/-- The magnitude as a quotient. -/
def ratio (mantissa : Nat) (exponent : Int) : Nat × Nat :=
  if 0 ≤ exponent then (mantissa * Nat.pow 2 exponent.toNat, 1)
  else (mantissa, Nat.pow 2 (-exponent).toNat)

/-- The whole number that a number is, if it is one. -/
def toInt? : Binary64 → Option Int
  | .finite negative mantissa exponent =>
    let (num, den) := ratio mantissa exponent
    if num % den = 0 then
      let n : Int := (num / den : Nat)
      some (if negative then -n else n)
    else none
  | _ => none

/-- The number nearest to a quotient whose sign is that of its numerator. -/
def ofSignedRatio (num : Int) (den : Nat) : Binary64 := ofRatio (num < 0) num.natAbs den

def signed (negative : Bool) (n : Nat) : Int := if negative then -n else n

/-- The sum of two numbers. -/
def add : Binary64 → Binary64 → Binary64
  | .finite s a e, .finite t b f =>
    let (n, d) := ratio a e
    let (m, c) := ratio b f
    if n = 0 && m = 0 then .finite (s && t) 0 0
    else ofSignedRatio (signed s n * c + signed t m * d) (d * c)
  | .finite .., y => y
  | x, .finite .. => x
  | .infinite s, .infinite t => if s = t then .infinite s else .nan
  | _, _ => .nan

/-- The product of two numbers. -/
def mul : Binary64 → Binary64 → Binary64
  | .finite s a e, .finite t b f =>
    let (n, d) := ratio a e
    let (m, c) := ratio b f
    ofRatio (s != t) (n * m) (d * c)
  | .infinite s, .finite t m _ => if m = 0 then .nan else .infinite (s != t)
  | .finite s m _, .infinite t => if m = 0 then .nan else .infinite (s != t)
  | .infinite s, .infinite t => .infinite (s != t)
  | _, _ => .nan

/-- The number with its sign changed if asked for. -/
def negateIf (flip : Bool) : Binary64 → Binary64
  | .finite negative m e => .finite (negative != flip) m e
  | .infinite negative => .infinite (negative != flip)
  | .nan => .nan

end Binary64

end JavadocAudit

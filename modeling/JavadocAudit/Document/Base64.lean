/-!
# Bytes in base 64

Four characters stand for three bytes. Other characters do not count, and equals signs fill up the
last group; what follows a filled group does not count either.
-/

namespace JavadocAudit.Document.Base64

/-- The six bits that a character stands for. -/
def sextet? (c : Char) : Option Nat :=
  if 'A' ≤ c && c ≤ 'Z' then some (c.toNat - 65)
  else if 'a' ≤ c && c ≤ 'z' then some (c.toNat - 71)
  else if c.isDigit then some (c.toNat + 4)
  else if c = '+' then some 62
  else if c = '/' then some 63
  else none

/-- The bytes of the characters from here on. `place` counts the characters of the group so far,
`bits` are their bits that no byte has used, and `fill` counts equals signs in a row. -/
def decodeFrom (place bits fill : Nat) : List Char → Option (List UInt8)
  | [] => if place = 0 then some [] else none
  | c :: rest =>
    if c = '=' then
      if 2 ≤ place then
        if 4 ≤ place + fill + 1 then some [] else decodeFrom place bits (fill + 1) rest
      else decodeFrom place bits fill rest
    else
      match sextet? c with
      | none => decodeFrom place bits fill rest
      | some v =>
        match place with
        | 0 => decodeFrom 1 v 0 rest
        | 1 => (decodeFrom 2 (v % 16) 0 rest).map (UInt8.ofNat (bits * 4 + v / 16) :: ·)
        | 2 => (decodeFrom 3 (v % 4) 0 rest).map (UInt8.ofNat (bits * 16 + v / 4) :: ·)
        | _ => (decodeFrom 0 0 0 rest).map (UInt8.ofNat (bits * 64 + v) :: ·)

/-- The bytes that a text stands for. -/
def decode? (cs : List Char) : Option (List UInt8) :=
  if cs.all (·.toNat < 128) then decodeFrom 0 0 0 cs else none

end JavadocAudit.Document.Base64

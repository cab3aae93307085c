import JavadocAudit.Source.Token.Basic
import JavadocAudit.Text.Blank
import JavadocAudit.Text.Identifier

/-!
# Cutting Java source into tokens

Each token is the longest that starts at its place. The sign `>` is always a token of its own, so
that it can close type arguments that stand inside each other; operators that contain it are put
together from tokens with nothing between them.
-/

namespace JavadocAudit.Source.Token

/-- The number of characters from the start that pass a test. -/
def runLength (test : Char → Bool) (cs : List Char) : Nat := (cs.takeWhile test).length

/-- The length of a run of digits with underscores between them. -/
def digitsLength (isDigit : Char → Bool) (cs : List Char) : Nat :=
  if !cs.head?.any isDigit then 0
  else
    let run := cs.takeWhile fun c => isDigit c || c = '_'
    run.length - runLength (· = '_') run.reverse

def isHex (c : Char) : Bool := c.isDigit || ('a' ≤ c && c ≤ 'f') || ('A' ≤ c && c ≤ 'F')

/-- The length of an exponent that starts with one of two letters. -/
def exponentLength (lower upper : Char) (cs : List Char) : Nat :=
  match cs with
  | e :: rest =>
    if e = lower || e = upper then
      let sign := if rest.head? = some '+' || rest.head? = some '-' then 1 else 0
      let digits := digitsLength Char.isDigit (rest.drop sign)
      if digits = 0 then 0 else 1 + sign + digits
    else 0
  | [] => 0

/-- One character of a set, if it comes next. -/
def oneOf (letters : List Char) (cs : List Char) : Nat :=
  if cs.head?.any letters.contains then 1 else 0

/-- The length of a number to a base that is a power of two, behind the mark of the base. -/
def integerLength (isDigit : Char → Bool) (cs : List Char) : Nat :=
  let digits := digitsLength isDigit cs
  if digits = 0 then 0 else digits + oneOf ['l', 'L'] (cs.drop digits)

/-- The length of a hexadecimal number behind the mark of the base: a whole number, or a number with
a binary exponent. -/
def hexLength (cs : List Char) : Nat :=
  let whole := digitsLength isHex cs
  let point := oneOf ['.'] (cs.drop whole)
  let fraction := if point = 0 then 0 else digitsLength isHex (cs.drop (whole + 1))
  if whole + fraction = 0 then 0
  else if point = 0 && exponentLength 'p' 'P' (cs.drop whole) = 0 then integerLength isHex cs
  else
    let mantissa := whole + point + fraction
    let exponent := exponentLength 'p' 'P' (cs.drop mantissa)
    mantissa + exponent
      + (if exponent = 0 then 0 else oneOf ['f', 'F', 'd', 'D'] (cs.drop (mantissa + exponent)))

/-- The length of a decimal or octal number. A number that starts with a zero and is not a fraction
has octal digits only. -/
def decimalLength (cs : List Char) : Nat :=
  let whole := digitsLength Char.isDigit cs
  let point := oneOf ['.'] (cs.drop whole)
  let fraction := if point = 0 then 0 else digitsLength Char.isDigit (cs.drop (whole + 1))
  if whole + fraction = 0 then 0
  else
    let mantissa := whole + point + fraction
    let exponent := exponentLength 'e' 'E' (cs.drop mantissa)
    let suffix := oneOf ['f', 'F', 'd', 'D'] (cs.drop (mantissa + exponent))
    if point + exponent + suffix ≠ 0 then mantissa + exponent + suffix
    else if cs.head? = some '0' && 1 < whole then
      max 1 (integerLength (fun c => '0' ≤ c && c ≤ '7') cs)
    else whole + oneOf ['l', 'L'] (cs.drop whole)

/-- The length of a number, or zero if none starts here. -/
def numberLength (cs : List Char) : Nat :=
  let marked (length : Nat) : Nat := if length = 0 then 1 else 2 + length
  match cs with
  | '0' :: c :: rest =>
    if c = 'x' || c = 'X' then marked (hexLength rest)
    else if c = 'b' || c = 'B' then marked (integerLength (fun c => c = '0' || c = '1') rest)
    else decimalLength cs
  | c :: rest =>
    if c.isDigit || (c = '.' && rest.head?.any Char.isDigit) then decimalLength cs else 0
  | [] => 0

/-- The length of the rest of a text up to its closing quote. -/
def closingLength? (quote : Char) (mayBreak : Bool) : List Char → Option Nat
  | [] => none
  | '\\' :: _ :: rest => (closingLength? quote mayBreak rest).map (· + 2)
  | c :: rest =>
    if c = quote then some 1
    else if c = '\\' || (c = '\n' && !mayBreak) then none
    else (closingLength? quote mayBreak rest).map (· + 1)

/-- The length of the rest of a text block up to its three closing quotes. -/
def blockClosingLength? : List Char → Option Nat
  | '"' :: '"' :: '"' :: _ => some 3
  | '\\' :: _ :: rest => (blockClosingLength? rest).map (· + 2)
  | c :: rest => if c = '\\' then none else (blockClosingLength? rest).map (· + 1)
  | [] => none

/-- Symbols of more than one character, longer ones before their beginnings. -/
def longSymbols : List String :=
  ["@interface", "<<=", "...", "->", "::", "++", "--", "&&", "||", "==", "!=", "<=", "<<", "+=",
   "-=", "*=", "/=", "&=", "|=", "^=", "%="]

/-- Symbols of one character. -/
def shortSymbols : List Char := "()[]\x7b\x7d;,.@=<>!~?:+-*/&|^%".toList

def symbolLength? (cs : List Char) : Option Nat :=
  match longSymbols.find? fun symbol => symbol.toList.isPrefixOf cs with
  | some symbol => some symbol.length
  | none => if cs.head?.any shortSymbols.contains then some 1 else none

/-- The kind and the length of the token that starts a text. -/
def next? (cs : List Char) : Option (Kind × Nat) :=
  match cs with
  | [] => none
  | '"' :: '"' :: '"' :: rest => (blockClosingLength? rest).map fun n => (.text, n + 3)
  | '"' :: rest => (closingLength? '"' true rest).map fun n => (.text, n + 1)
  | '\'' :: rest =>
    match closingLength? '\'' false rest with
    | some n => if n = 1 then none else some (.character, n + 1)
    | none => none
  | c :: _ =>
    if Text.isIdentifierStart c then some (.word, runLength Text.isIdentifierPart cs)
    else if numberLength cs ≠ 0 then some (.number, numberLength cs)
    else (symbolLength? cs).map fun n => (.symbol, n)

/-- The length of a remark between `/*` and `*/`, behind its opening. -/
def remarkLength? : List Char → Option Nat
  | '*' :: '/' :: _ => some 2
  | _ :: rest => (remarkLength? rest).map (· + 1)
  | [] => none

/-- What stands between two tokens. -/
structure Gap where
  text : List Char := []
  remarks : List Remark := []

/-- What stands before the next token, and the rest; `none` if a remark does not end. -/
def gap? : Nat → Point → List Char → Option (Gap × List Char)
  | 0, _, cs => some ({}, cs)
  | fuel + 1, point, cs =>
    let skip (length : Nat) (remark : List Char → List Remark) : Option (Gap × List Char) := do
      let text := cs.take length
      let (gap, rest) ← gap? fuel (point.advance text) (cs.drop length)
      return (⟨text ++ gap.text, remark text ++ gap.remarks⟩, rest)
    match cs with
    | '/' :: '/' :: rest =>
      skip (2 + runLength (· ≠ '\n') rest) fun text => [⟨String.ofList text, false, point⟩]
    | '/' :: '*' :: rest =>
      match remarkLength? rest with
      | none => none
      | some n => skip (2 + n) fun text => [⟨String.ofList text, true, point⟩]
    | c :: _ => if Text.isSpace c then skip 1 fun _ => [] else some ({}, cs)
    | [] => some ({}, [])

/-- The tokens of a text that starts at a point, if the number of steps is at least one more than
the number of characters. -/
def scanFrom : Nat → Point → List Char → Option (List Token)
  | 0, _, _ => none
  | fuel + 1, point, cs => do
    let (gap, rest) ← gap? (fuel + 1) point cs
    match rest with
    | [] => return []
    | _ =>
      let (kind, length) ← next? rest
      let point := point.advance gap.text
      let text := rest.take length
      let token : Token :=
        ⟨kind, String.ofList text, point, String.ofList gap.text, gap.remarks⟩
      return token :: (← scanFrom fuel (point.advance text) (rest.drop length))

/-- The tokens of a source text; `none` if it cannot be cut into tokens. A byte order mark at the
start is skipped. -/
def scan (cs : List Char) : Option (List Token) :=
  match cs with
  | '\ufeff' :: rest => scanFrom (cs.length + 1) ⟨0, 3⟩ rest
  | _ => scanFrom (cs.length + 1) ⟨0, 0⟩ cs

end JavadocAudit.Source.Token

import JavadocAudit.Document.ClockTime
import JavadocAudit.Document.Node.Basic
import JavadocAudit.Text.Line

/-!
# The kind of a scalar without a tag

A plain scalar is text unless it looks like something else: a switch, a number, a time, or nothing
at all.
-/

namespace JavadocAudit.Document.Node.Kind

def switchWords : List String :=
  ["yes", "Yes", "YES", "no", "No", "NO", "true", "True", "TRUE", "false", "False", "FALSE",
   "on", "On", "ON", "off", "Off", "OFF"]

def nullWords : List String := ["", "~", "null", "Null", "NULL"]

/-- A text without its sign. -/
def unsigned : List Char → List Char
  | '+' :: rest => rest
  | '-' :: rest => rest
  | cs => cs

/-- A decimal digit or an underscore. -/
def isDigitMark (c : Char) : Bool := c.isDigit || c = '_'

/-- A group behind a colon in a number to the base of sixty. -/
def isSixtieth : List Char → Bool
  | [c] => c.isDigit
  | [c, d] => '0' ≤ c && c ≤ '5' && d.isDigit
  | _ => false

/-- Groups to the base of sixty, each behind a colon. -/
def areSixtieths : List Char → Bool
  | ':' :: rest => (Text.cutAt ':' rest).all isSixtieth
  | _ => false

/-- A whole number: binary, octal, hexadecimal, decimal, or to the base of sixty. -/
def isInt (cs : List Char) : Bool :=
  match unsigned cs with
  | ['0'] => true
  | '0' :: 'b' :: digits => !digits.isEmpty && digits.all fun c => c = '0' || c = '1' || c = '_'
  | '0' :: 'x' :: digits => !digits.isEmpty && digits.all fun c =>
      isDigitMark c || ('a' ≤ c && c ≤ 'f') || ('A' ≤ c && c ≤ 'F')
  | '0' :: digits => digits.all fun c => ('0' ≤ c && c ≤ '7') || c = '_'
  | c :: rest =>
    c.isDigit &&
      (let others := rest.dropWhile isDigitMark
       others.isEmpty || areSixtieths others)
  | [] => false

/-- A power of ten with its sign, or nothing. -/
def isExponent : List Char → Bool
  | [] => true
  | e :: sign :: digits =>
    (e = 'e' || e = 'E') && (sign = '+' || sign = '-') && !digits.isEmpty && digits.all Char.isDigit
  | _ => false

/-- A number with a fraction: a digit first, a decimal point, and an exponent if it is decimal. -/
def isFraction (cs : List Char) : Bool :=
  match cs with
  | c :: rest =>
    c.isDigit &&
      (match rest.dropWhile isDigitMark with
      | '.' :: fraction => isExponent (fraction.dropWhile isDigitMark)
      | others =>
        areSixtieths (others.takeWhile (· ≠ '.')) &&
          match others.dropWhile (· ≠ '.') with
          | '.' :: fraction => fraction.all isDigitMark
          | _ => false)
  | [] => false

/-- A number with a fraction, or one that is infinite or no number. -/
def isFloat (cs : List Char) : Bool :=
  isFraction (unsigned cs)
    || (match cs with
      | '.' :: c :: rest => c.isDigit && isExponent (rest.dropWhile isDigitMark)
      | _ => false)
    || [".inf", ".Inf", ".INF"].contains (String.ofList (unsigned cs))
    || [".nan", ".NaN", ".NAN"].contains (String.ofList cs)

/-- A text without a line feed at its end. -/
def withoutBreak (cs : List Char) : List Char :=
  match cs.getLast? with
  | some '\n' => cs.dropLast
  | _ => cs

/-- The kind of a scalar without a tag. A line feed at its end does not count, unless it is all
there is. -/
def ofText (text : String) : Kind :=
  let cs := withoutBreak text.toList
  let word := String.ofList cs
  if switchWords.contains word then .bool
  else if isFloat cs then .float
  else if isInt cs then .int
  else if word = "<<" then .merge
  else if nullWords.contains word && (text = "" || word ≠ "") then .null
  else if ClockTime.looksLike cs then .time
  else if word = "=" then .default
  else if ["!", "&", "*"].contains word then .unknown
  else .text

end JavadocAudit.Document.Node.Kind

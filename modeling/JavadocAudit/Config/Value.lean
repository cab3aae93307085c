import JavadocAudit.Dict
import JavadocAudit.Number.Shortest
import JavadocAudit.Text.Quoted
import JavadocAudit.Text.Utf8

/-!
# Configuration values

A configuration file holds scalars, lists and mappings. Keys of mappings are scalars, and keys that
are equal as numbers are the same key.
-/

namespace JavadocAudit.Config

structure Day where
  year : Nat
  month : Nat
  day : Nat
  deriving DecidableEq, Repr

/-- A time of day, with its distance from universal time in seconds if that is known. -/
structure TimeOfDay where
  hour : Nat
  minute : Nat
  second : Nat
  microsecond : Nat
  offset : Option Int
  deriving DecidableEq, Repr

/-- A value without parts. -/
inductive Scalar where
  | null
  | bool (b : Bool)
  | int (n : Int)
  | float (x : Binary64)
  | text (s : String)
  | bytes (data : List UInt8)
  | date (day : Day)
  | moment (day : Day) (time : TimeOfDay)
  deriving DecidableEq, Repr

inductive Value where
  | scalar (s : Scalar)
  | list (items : List Value)
  | map (entries : List (Scalar × Value))
  | set (members : List Scalar)
  /-- A list or mapping that contains itself, where it comes up again. -/
  | recurrence (isMap : Bool)

instance : Inhabited Value := ⟨.scalar .null⟩

namespace Scalar

/-- The number that a scalar counts as when it is a key. -/
def asNumber? : Scalar → Option (Bool × Nat × Nat)
  | bool b => some (false, b.toNat, 1)
  | int n => some (n < 0, n.natAbs, 1)
  | float (.finite negative m e) =>
    let (num, den) := Binary64.ratio m e
    some (negative && num ≠ 0, num, den)
  | _ => none

def sameKey (a b : Scalar) : Bool :=
  match a.asNumber?, b.asNumber? with
  | some (s, n, d), some (t, m, c) => s == t && n * c == m * d
  | none, none => a == b && a != .float .nan
  | _, _ => false

/-- A time span as messages show it. -/
def spanText (seconds : Int) : String :=
  let days := seconds / 86400
  let rest := seconds % 86400
  let dayPart := if days = 0 then [] else ["days=" ++ toString days]
  let secondPart := if rest = 0 then [] else ["seconds=" ++ toString rest]
  match dayPart ++ secondPart with
  | [] => "datetime.timedelta(0)"
  | parts => "datetime.timedelta(" ++ String.intercalate ", " parts ++ ")"

/-- A time zone as messages show it. -/
def zoneText (offset : Int) : String :=
  if offset = 0 then "tzinfo=datetime.timezone.utc"
  else "tzinfo=datetime.timezone(" ++ spanText offset ++ ")"

def byteText (quote : Char) (b : UInt8) : List Char :=
  let c := Char.ofNat b.toNat
  if c = '\\' || c = quote then ['\\', c]
  else if c = '\t' then ['\\', 't']
  else if c = '\n' then ['\\', 'n']
  else if c = '\r' then ['\\', 'r']
  else if 32 ≤ b.toNat && b.toNat < 127 then [c]
  else '\\' :: 'x' :: Text.hexPadded 2 b.toNat

/-- A scalar as messages show it. -/
def display : Scalar → String
  | null => "None"
  | bool b => if b then "True" else "False"
  | int n => toString n
  | float x => x.text
  | text s => Text.quoted s
  | bytes data =>
    let quote := if data.contains 39 && !data.contains 34 then '"' else '\''
    String.ofList ('b' :: quote :: data.flatMap (byteText quote) ++ [quote])
  | date day => "datetime.date(" ++ String.intercalate ", "
      [toString day.year, toString day.month, toString day.day] ++ ")"
  | moment day time =>
    let seconds :=
      if time.microsecond ≠ 0 then [toString time.second, toString time.microsecond]
      else if time.second ≠ 0 then [toString time.second]
      else []
    let fields := [toString day.year, toString day.month, toString day.day, toString time.hour,
      toString time.minute] ++ seconds ++ (time.offset.map zoneText).toList
    "datetime.datetime(" ++ String.intercalate ", " fields ++ ")"

end Scalar

namespace Value

/-- The value stands for nothing: no value, no number, no text, no parts. -/
def isVoid : Value → Bool
  | scalar .null => true
  | scalar (.bool b) => !b
  | scalar (.int n) => n = 0
  | scalar (.float (.finite _ m _)) => m = 0
  | scalar (.text s) => s.isEmpty
  | scalar (.bytes data) => data.isEmpty
  | scalar _ => false
  | list items => items.isEmpty
  | map entries => entries.isEmpty
  | set members => members.isEmpty
  | recurrence _ => false

def entry? (entries : List (Scalar × Value)) (key : String) : Option Value :=
  (entries.find? fun entry => entry.1 == .text key).map (·.2)

/-- Gives a key of a mapping a value; the key keeps its place and its first spelling. -/
def insertEntry : List (Scalar × Value) → Scalar → Value → List (Scalar × Value)
  | [], key, value => [(key, value)]
  | (k, v) :: rest, key, value =>
    if k.sameKey key then (k, value) :: rest else (k, v) :: insertEntry rest key value

end Value

end JavadocAudit.Config

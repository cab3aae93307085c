import JavadocAudit.Config.Value
import JavadocAudit.Document.Fault

/-!
# Days and times in a document

A day is written with its year in four digits. A time of day may follow, with a fraction of a
second, and with a distance from universal time.
-/

namespace JavadocAudit.Document

open JavadocAudit.Config

namespace ClockTime

/-- The parts of a written time of day. -/
structure Clock where
  hour : Nat
  minute : Nat
  second : Nat
  fraction : List Char
  offset : Option Int

def number (digits : List Char) : Nat := digits.foldl (fun n c => 10 * n + (c.toNat - 48)) 0

/-- A number with a least and a greatest count of digits. -/
def digits? (least most : Nat) (cs : List Char) : Option (Nat × List Char) :=
  let digits := (cs.takeWhile Char.isDigit).take most
  if digits.length < least then none else some (number digits, cs.drop digits.length)

def after? (c : Char) : List Char → Option (List Char)
  | d :: rest => if c = d then some rest else none
  | [] => none

/-- A day, and what follows it. -/
def day? (cs : List Char) : Option (Day × List Char) := do
  let (year, cs) ← digits? 4 4 cs
  let (month, cs) ← digits? 1 2 (← after? '-' cs)
  let (day, cs) ← digits? 1 2 (← after? '-' cs)
  return (⟨year, month, day⟩, cs)

/-- A distance from universal time up to the end of the text, in seconds. -/
def offset? (cs : List Char) : Option (Option Int) := do
  match cs with
  | [] => return none
  | _ =>
    match cs.dropWhile fun c => c = ' ' || c = '\t' with
    | ['Z'] => return some 0
    | sign :: rest =>
      if sign ≠ '+' && sign ≠ '-' then failure
      let (hours, rest) ← digits? 1 2 rest
      let minutes ← match rest with
        | [] => pure 0
        | _ => do
          let (minutes, rest) ← digits? 2 2 (← after? ':' rest)
          if rest.isEmpty then pure minutes else failure
      let seconds : Int := 3600 * hours + 60 * minutes
      return some (if sign = '-' then -seconds else seconds)
    | [] => failure

/-- A time of day up to the end of the text. -/
def clock? (cs : List Char) : Option Clock := do
  let (hour, cs) ← digits? 1 2 cs
  let (minute, cs) ← digits? 2 2 (← after? ':' cs)
  let (second, cs) ← digits? 2 2 (← after? ':' cs)
  let (fraction, cs) := match cs with
    | '.' :: rest => (rest.takeWhile Char.isDigit, rest.dropWhile Char.isDigit)
    | _ => ([], cs)
  return ⟨hour, minute, second, fraction, ← offset? cs⟩

/-- The rest behind what separates a day from a time of day. -/
def behindDay? : List Char → Option (List Char)
  | 'T' :: rest => some rest
  | 't' :: rest => some rest
  | c :: rest =>
    if c = ' ' || c = '\t' then some (rest.dropWhile fun c => c = ' ' || c = '\t') else none
  | [] => none

/-- A written day, and the time of day if there is one. -/
def read? (cs : List Char) : Option (Day × Option Clock) := do
  let (day, rest) ← day? cs
  if rest.isEmpty then return (day, none)
  return (day, some (← clock? (← behindDay? rest)))

/-- A scalar without a tag is a time if it is one in full, or a day with all its digits. -/
def looksLike (cs : List Char) : Bool :=
  match read? cs with
  | some (_, some _) => true
  | some (_, none) => cs.length = 10
  | none => false

def isLeap (year : Nat) : Bool := year % 4 = 0 && (year % 100 ≠ 0 || year % 400 = 0)

def daysIn (year month : Nat) : Nat :=
  if month = 2 then if isLeap year then 29 else 28
  else if [4, 6, 9, 11].contains month then 30
  else 31

/-- The calendar has this day. -/
def isDay (day : Day) : Bool :=
  0 < day.year && 0 < day.month && day.month ≤ 12 && 0 < day.day
    && day.day ≤ daysIn day.year day.month

/-- The clock has this time, and its distance from universal time is less than a day. -/
def isClock (clock : Clock) : Bool :=
  clock.hour < 24 && clock.minute < 60 && clock.second < 60
    && clock.offset.all fun seconds => seconds.natAbs < 86400

/-- The first six digits of a fraction as millionths. -/
def microseconds (fraction : List Char) : Nat :=
  let digits := fraction.take 6
  number (digits ++ List.replicate (6 - digits.length) '0')

def ofText (cs : List Char) : Reading Scalar :=
  match read? cs with
  | none => throw .noTime
  | some (day, none) => if isDay day then return .date day else throw .badTime
  | some (day, some clock) =>
    if isDay day && isClock clock then
      return .moment day
        ⟨clock.hour, clock.minute, clock.second, microseconds clock.fraction, clock.offset⟩
    else throw .badTime

end ClockTime

end JavadocAudit.Document

import JavadocAudit.Pattern.Expr

/-!
# Matching regular expressions

A match is found by trying the alternatives in order and going back when a later part fails. What
has to come after a part is passed to it as a continuation, so a part is tried in its next way
exactly when everything after it fails. Recursion is on the expression; a repetition is bounded by
the characters that are left, because after the least number of rounds a round that consumes
nothing is the last.
-/

namespace JavadocAudit.Pattern

/-- A place in the subject, and what the groups have captured on the way there. -/
structure Cursor where
  pos : Nat
  /-- Group, start and end; the latest capture of a group comes first. -/
  captures : List (Nat × Nat × Nat)

def Cursor.captured? (cursor : Cursor) (number : Nat) : Option (Nat × Nat) :=
  cursor.captures.lookup number

/-- How the rest of a match goes on from a place. -/
abbrev Next := Cursor → Option Cursor

def wordAt (subject : Array Char) (ascii : Bool) (pos : Nat) : Bool :=
  subject[pos]?.any fun c => Category.word.contains ascii c.toNat

/-- An anchor that holds at a place. An empty subject has no word boundary and no other place
either. -/
def Anchor.holds (subject : Array Char) (mode : Mode) (kind : Anchor) (pos : Nat) : Bool :=
  let boundary := wordAt subject mode.ascii pos !=
    (pos != 0 && wordAt subject mode.ascii (pos - 1))
  match kind with
  | .textStart => pos == 0
  | .textEnd => pos == subject.size
  | .lineStart => pos == 0 || (mode.multiline && subject[pos - 1]? == some '\n')
  | .lineEnd => pos == subject.size ||
      (subject[pos]? == some '\n' && (mode.multiline || pos + 1 == subject.size))
  | .wordBoundary => subject.size != 0 && boundary
  | .noWordBoundary => subject.size != 0 && !boundary

/-- Goes on behind one character that passes a test. -/
def unit (subject : Array Char) (test : Nat → Bool) (cursor : Cursor) (next : Next) :
    Option Cursor :=
  match subject[cursor.pos]? with
  | some c => if test c.toNat then next { cursor with pos := cursor.pos + 1 } else none
  | none => none

/-- Rounds of a repetition, most first: another round is tried before the continuation. `last` is
the place where the latest optional round began. -/
def mostRounds (body : Cursor → Next → Option Cursor) (low : Nat) (high : Option Nat)
    (next : Next) : Nat → Nat → Option Nat → Cursor → Option Cursor
  | 0, _, _, cursor => next cursor
  | fuel + 1, round, last, cursor =>
    if round < low then body cursor (mostRounds body low high next fuel (round + 1) last)
    else if high.all (round < ·) && last != some cursor.pos then
      match body cursor (mostRounds body low high next fuel (round + 1) (some cursor.pos)) with
      | some done => some done
      | none => next cursor
    else next cursor

/-- Rounds of a repetition, fewest first. -/
def fewestRounds (body : Cursor → Next → Option Cursor) (low : Nat) (high : Option Nat)
    (next : Next) : Nat → Nat → Option Nat → Cursor → Option Cursor
  | 0, _, _, cursor => next cursor
  | fuel + 1, round, last, cursor =>
    if round < low then body cursor (fewestRounds body low high next fuel (round + 1) last)
    else
      match next cursor with
      | some done => some done
      | none =>
        if high.all (round < ·) && last != some cursor.pos then
          body cursor (fewestRounds body low high next fuel (round + 1) (some cursor.pos))
        else none

/-- As many rounds of a repetition as there are, each in its first way. -/
def allRounds (body : Cursor → Next → Option Cursor) (low : Nat) (high : Option Nat) :
    Nat → Nat → Option Nat → Cursor → Option Cursor
  | 0, _, _, cursor => some cursor
  | fuel + 1, round, last, cursor =>
    if round < low then (body cursor some).bind (allRounds body low high fuel (round + 1) last)
    else if high.all (round < ·) && last != some cursor.pos then
      match body cursor some with
      | some done => allRounds body low high fuel (round + 1) (some cursor.pos) done
      | none => some cursor
    else some cursor

/-- The characters of a span stand at a place as well. -/
def sameSpan (subject : Array Char) (mode : Mode) (start pos : Nat) : Nat → Bool
  | 0 => true
  | count + 1 =>
    match subject[start]?, subject[pos]? with
    | some a, some b =>
      (if !mode.ignoreCase then a == b
       else if mode.ascii then lowerAscii a.toNat == lowerAscii b.toNat
       else Text.lowerCode a.toNat == Text.lowerCode b.toNat)
        && sameSpan subject mode (start + 1) (pos + 1) count
    | _, _ => false

/-- Matches an expression from a place and goes on behind the match. -/
def Expr.run (subject : Array Char) : Expr → Cursor → Next → Option Cursor
  | .empty, cursor, next => next cursor
  | .any mode, cursor, next => unit subject (fun code => mode.dotAll || code != 10) cursor next
  | .char mode code, cursor, next =>
    unit subject (fun actual => (mode.variants actual).contains code) cursor next
  | .set mode negated items, cursor, next =>
    unit subject (fun code => items.any (·.covers mode code) != negated) cursor next
  | .anchor mode kind, cursor, next =>
    if kind.holds subject mode cursor.pos then next cursor else none
  | .seq first second, cursor, next =>
    first.run subject cursor fun middle => second.run subject middle next
  | .alt first second, cursor, next =>
    match first.run subject cursor next with
    | some done => some done
    | none => second.run subject cursor next
  | .repeated low high greed body, cursor, next =>
    let fuel := low + subject.size + 2
    match greed with
    | .most => mostRounds (body.run subject) low high next fuel 0 none cursor
    | .fewest => fewestRounds (body.run subject) low high next fuel 0 none cursor
    | .possessive =>
      (allRounds (body.run subject) low high fuel 0 none cursor).bind next
  | .group none body, cursor, next => body.run subject cursor next
  | .group (some number) body, cursor, next =>
    body.run subject cursor fun done =>
      next { done with captures := (number, cursor.pos, done.pos) :: done.captures }
  | .atomic body, cursor, next => (body.run subject cursor some).bind next
  | .ahead negated body, cursor, next =>
    match body.run subject cursor some with
    | some done => if negated then none else next { cursor with captures := done.captures }
    | none => if negated then next cursor else none
  | .behind negated width body, cursor, next =>
    let found :=
      if width ≤ cursor.pos then body.run subject { cursor with pos := cursor.pos - width } some
      else none
    match found with
    | some done => if negated then none else next { cursor with captures := done.captures }
    | none => if negated then next cursor else none
  | .reference mode number _, cursor, next =>
    match cursor.captured? number with
    | some (start, stop) =>
      if sameSpan subject mode start cursor.pos (stop - start) then
        next { cursor with pos := cursor.pos + (stop - start) }
      else none
    | none => none
  | .ifGroup number yes no, cursor, next =>
    if (cursor.captured? number).isSome then yes.run subject cursor next
    else no.run subject cursor next

def Expr.matchesWhole (expr : Expr) (s : String) : Bool :=
  let subject := s.toList.toArray
  (expr.run subject ⟨0, []⟩ fun cursor =>
    if cursor.pos = subject.size then some cursor else none).isSome

end JavadocAudit.Pattern

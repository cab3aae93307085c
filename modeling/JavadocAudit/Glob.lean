/-!
# Shell patterns for file names

A star stands for any text, a question mark for any character and brackets for one character of a
set. The pattern has to cover the whole name; slashes and leading dots are characters like any
other. A bracket that is never closed stands for itself, a range whose ends are in the wrong order
is empty, and a set without members matches nothing (its negation, anything).
-/

namespace JavadocAudit

/-- A member of a bracketed set. -/
inductive Glob.Item where
  | one (c : Char)
  | range (low high : Char)
  deriving DecidableEq, Repr

/-- What stands for part of a name. -/
inductive Glob.Piece where
  | star
  | any
  | one (c : Char)
  | set (negated : Bool) (items : List Glob.Item)
  deriving DecidableEq, Repr

namespace Glob

/-- The text of a set cut at the hyphens that make ranges. A hyphen at either end of the set or
right behind a range makes none; `held` is the number of characters that cannot be cut yet. -/
def chunks : Nat → List Char → List Char → List (List Char)
  | _, chunk, [] => [chunk.reverse]
  | 0, chunk, c :: rest =>
    if c = '-' then
      if rest.isEmpty then [(c :: chunk).reverse] else chunk.reverse :: chunks 2 [] rest
    else chunks 0 (c :: chunk) rest
  | held + 1, chunk, c :: rest => chunks held (c :: chunk) rest

/-- Chunks with every range dropped whose ends are in the wrong order. -/
def dropEmptyRanges : List (List Char) → List (List Char)
  | [] => []
  | chunk :: rest =>
    match dropEmptyRanges rest with
    | [] => [chunk]
    | next :: others =>
      match chunk.getLast?, next.head? with
      | some low, some high =>
        if high < low then (chunk.dropLast ++ next.tail) :: others else chunk :: next :: others
      | _, _ => chunk :: next :: others

/-- The members of a set, where `low` starts a range that the next chunk ends. -/
def items (low : Option Char) : List (List Char) → List Item
  | [] => []
  | chunk :: rest =>
    let (start, inner) := match low, chunk with
      | some low, high :: inner => ([Item.range low high], inner)
      | _, chunk => ([], chunk)
    match rest, inner.getLast? with
    | _ :: _, some last => start ++ inner.dropLast.map .one ++ items (some last) rest
    | _, _ => start ++ inner.map .one ++ items none rest

/-- The piece that the text between two brackets stands for. -/
def bracketPiece (stuff : List Char) : Piece :=
  let held := if stuff.head? = some '!' then 2 else 1
  match dropEmptyRanges (chunks held [] stuff) with
  | ('!' :: first) :: rest => if first.isEmpty && rest.isEmpty then .any
      else .set true (items none (first :: rest))
  | parts => .set false (items none parts)

/-- The text between an opening bracket and the one that closes it, and what comes after. A closing
bracket right at the start, or right behind the mark of a negation, is a member of the set. -/
def bracketed? (cs : List Char) : Option (List Char × List Char) :=
  let (mark, cs) := match cs with
    | '!' :: rest => (['!'], rest)
    | cs => ([], cs)
  let (first, cs) := match cs with
    | ']' :: rest => ([']'], rest)
    | cs => ([], cs)
  match cs.dropWhile (· ≠ ']') with
  | [] => none
  | _ :: rest => some (mark ++ first ++ cs.takeWhile (· ≠ ']'), rest)

theorem length_lt_of_bracketed? {cs stuff rest : List Char}
    (h : bracketed? cs = some (stuff, rest)) : rest.length < cs.length := by
  have key : ∀ ds : List Char, ∀ d, ds.dropWhile (· ≠ ']') = d :: rest →
      rest.length < ds.length := by
    intro ds d hd
    have := (List.dropWhile_suffix (l := ds) (· ≠ ']')).length_le
    rw [hd, List.length_cons] at this
    omega
  unfold bracketed? at h
  grind

def pieces (cs : List Char) : List Piece :=
  match cs with
  | [] => []
  | '*' :: rest => .star :: pieces rest
  | '?' :: rest => .any :: pieces rest
  | '[' :: rest =>
    match _h : bracketed? rest with
    | some (stuff, after) => bracketPiece stuff :: pieces after
    | none => .one '[' :: pieces rest
  | c :: rest => .one c :: pieces rest
termination_by cs.length
decreasing_by
  · simp
  · simp
  · exact Nat.lt_succ_of_lt (length_lt_of_bracketed? _h)
  · simp
  · simp

def Item.covers : Item → Char → Bool
  | .one member, c => c = member
  | .range low high, c => low ≤ c && c ≤ high

/-- A piece, not a star, that covers a character. -/
def Piece.covers : Piece → Char → Bool
  | .star, _ => true
  | .any, _ => true
  | .one member, c => c = member
  | .set negated items, c => items.any (·.covers c) != negated

/-- From the verdicts on all ends of a text, longest first, those with a star in front. -/
def afterStar : List Bool → List Bool
  | [] => []
  | verdict :: rest =>
    let shorter := afterStar rest
    (verdict || shorter.headD false) :: shorter

/-- From the verdicts on all ends of a text, longest first, those with a character in front. -/
def afterChar (covers : Char → Bool) : List Char → List Bool → List Bool
  | c :: cs, _ :: verdicts => (covers c && verdicts.headD false) :: afterChar covers cs verdicts
  | _, _ => [false]

/-- Whether the pieces cover each end of a text, the whole text first and the empty end last. -/
def verdicts (cs : List Char) : List Piece → List Bool
  | [] => cs.map (fun _ => false) ++ [true]
  | .star :: rest => afterStar (verdicts cs rest)
  | piece :: rest => afterChar piece.covers cs (verdicts cs rest)

def covers (pattern name : String) : Bool :=
  (verdicts name.toList (pieces pattern.toList)).headD false

end Glob

end JavadocAudit

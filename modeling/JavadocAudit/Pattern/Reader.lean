import JavadocAudit.Pattern.Match
import JavadocAudit.Text.Identifier
import JavadocAudit.Text.Integer

/-!
# Reading regular expressions

An expression is cut into characters and escaped characters, and these are read by recursive
descent. Reading keeps track of the groups: a reference needs a group that is closed already, and
inside an assertion that looks back it needs one that was closed before the assertion.
-/

namespace JavadocAudit.Pattern

inductive Fault where
  /-- The text breaks a rule of the notation. -/
  | malformed
  /-- The expression asks for ASCII classes and for Unicode classes. -/
  | conflictingModes
  /-- A number of repetitions is too large. -/
  | countTooLarge
  /-- A character is given by its name. Names of characters are not known here. -/
  | namedCharacter
  deriving DecidableEq, Repr

/-- A character of the expression, or one behind a backslash. -/
inductive Token where
  | plain (c : Char)
  | escaped (c : Char)
  deriving DecidableEq, Repr

/-- The tokens of an expression; a backslash at the end escapes nothing. -/
def tokens? : List Char → Option (List Token)
  | [] => some []
  | '\\' :: c :: rest => (tokens? rest).map (.escaped c :: ·)
  | c :: rest => if c = '\\' then none else (tokens? rest).map (.plain c :: ·)

def Token.chars : Token → List Char
  | .plain c => [c]
  | .escaped c => ['\\', c]

/-- What reading has seen so far. -/
structure ReaderState where
  rest : List Token
  /-- The modes set for the whole expression. -/
  mode : Mode := {}
  asciiAsked : Bool := false
  unicodeAsked : Bool := false
  /-- Repetitions are not allowed. -/
  templateAsked : Bool := false
  names : List (String × Nat) := []
  /-- The widths of the groups from number zero on; a group that is still open has none. -/
  widths : List (Option Width) := [none]
  /-- The number of groups at the start of the outermost assertion that looks back. -/
  behindFrom : Option Nat := none
  /-- Groups that conditions ask for by number. -/
  asked : List Nat := []

/-- A step of reading. -/
abbrev Reader := StateT ReaderState (Except Fault)

namespace Reader

def malformed {α : Type} : Reader α := throw .malformed

def peek : Reader (Option Token) := return (← get).rest.head?

def advance : Reader Unit := modify fun s => { s with rest := s.rest.tail }

def take : Reader (Option Token) := do
  let token ← peek
  advance
  return token

/-- Consumes a given character if it comes next. -/
def accept (c : Char) : Reader Bool := do
  if (← peek) = some (.plain c) then
    advance
    return true
  else return false

def expect (c : Char) : Reader Unit := do
  if !(← accept c) then malformed

/-- Up to `n` characters that pass a test. -/
def takeWhile (test : Char → Bool) : Nat → Reader (List Char)
  | 0 => return []
  | n + 1 => do
    match ← peek with
    | some (.plain c) =>
      if test c then
        advance
        return c :: (← takeWhile test n)
      else return []
    | _ => return []

/-- The text up to a terminator, which is consumed. -/
def takeUntil (terminator : Char) : Reader (List Char) := do
  let s ← get
  let name := s.rest.takeWhile (· ≠ .plain terminator)
  match s.rest.dropWhile (· ≠ .plain terminator) with
  | [] => malformed
  | _ :: rest =>
    set { s with rest }
    if name.isEmpty then malformed else return name.flatMap Token.chars

end Reader

open Reader

def isOctal (c : Char) : Bool := '0' ≤ c && c ≤ '7'

def isDecimal (c : Char) : Bool := '0' ≤ c && c ≤ '9'

def isHex (c : Char) : Bool := isDecimal c || ('a' ≤ c && c ≤ 'f') || ('A' ≤ c && c ≤ 'F')

def isLetter (c : Char) : Bool := ('a' ≤ c && c ≤ 'z') || ('A' ≤ c && c ≤ 'Z')

/-- The value of an ASCII digit up to hexadecimal. -/
def digitOf (c : Char) : Nat :=
  if isDecimal c then c.toNat - 48
  else if 'a' ≤ c then c.toNat - 87
  else c.toNat - 55

def numeral (base : Nat) (digits : List Char) : Nat :=
  digits.foldl (fun n c => base * n + digitOf c) 0

def controlEscape? : Char → Option Nat
  | 'a' => some 7
  | 'b' => some 8
  | 'f' => some 12
  | 'n' => some 10
  | 'r' => some 13
  | 't' => some 9
  | 'v' => some 11
  | '\\' => some 92
  | _ => none

/-- The class that a letter stands for, with its complement. -/
def categoryEscape? : Char → Option SetItem
  | 'd' => some (.category .digit false)
  | 'D' => some (.category .digit true)
  | 's' => some (.category .blank false)
  | 'S' => some (.category .blank true)
  | 'w' => some (.category .word false)
  | 'W' => some (.category .word true)
  | _ => none

/-- The anchor that a letter stands for. -/
def anchorEscape? : Char → Option Anchor
  | 'A' => some .textStart
  | 'Z' => some .textEnd
  | 'b' => some .wordBoundary
  | 'B' => some .noWordBoundary
  | _ => none

/-- The code point given by exactly `count` hexadecimal digits. -/
def hexEscape (count : Nat) : Reader Nat := do
  let digits ← takeWhile isHex count
  if digits.length ≠ count then malformed
  else
    let code := numeral 16 digits
    if 0x10FFFF < code then malformed else return code

/-- The code point of an escape that means the same everywhere. -/
def literalEscape (c : Char) : Reader Nat :=
  match c with
  | 'x' => hexEscape 2
  | 'u' => hexEscape 4
  | 'U' => hexEscape 8
  | 'N' => do
    expect '\x7b'
    let _ ← takeUntil '\x7d'
    throw .namedCharacter
  | _ => if isLetter c || isDecimal c then malformed else return c.toNat

def setEscape (c : Char) : Reader SetItem := do
  match controlEscape? c, categoryEscape? c with
  | some code, _ => return .one code
  | _, some item => return item
  | none, none =>
    if isOctal c then
      let code := numeral 8 (c :: (← takeWhile isOctal 2))
      if 0o377 < code then malformed else return .one code
    else return .one (← literalEscape c)

/-- A group is closed, and was so before the assertion that looks back, if there is one. -/
def checkReference (number : Nat) (mayBeOpen : Bool) : Reader Unit := do
  let s ← get
  let closed := (s.widths[number]?.bind id).isSome
  if !closed && !mayBeOpen then malformed
  else
    match s.behindFrom with
    | some count => if !closed || count ≤ number then malformed
    | none => return

def groupReference (mode : Mode) (number : Nat) : Reader Expr := do
  checkReference number false
  match (← get).widths[number]?.bind id with
  | some width => return .reference mode number width
  | none => malformed

/-- An escape outside sets that starts with a digit other than zero: a character by three octal
digits, or a reference to a group. -/
def digitEscape (mode : Mode) (c : Char) : Reader Expr := do
  let second ← takeWhile isDecimal 1
  let third ←
    if isOctal c && second.any isOctal then takeWhile isOctal 1 else pure []
  if third.isEmpty then groupReference mode (numeral 10 (c :: second))
  else
    let code := numeral 8 (c :: second ++ third)
    if 0o377 < code then malformed else return .char mode code

/-- An escape outside sets. -/
def escape (mode : Mode) (c : Char) : Reader Expr := do
  match anchorEscape? c, categoryEscape? c, controlEscape? c with
  | some anchor, _, _ => return .anchor mode anchor
  | _, some item, _ => return .set mode false [item]
  | _, _, some code => return .char mode code
  | none, none, none =>
    if c = '0' then return .char mode (numeral 8 (← takeWhile isOctal 2))
    else if isDecimal c then digitEscape mode c
    else return .char mode (← literalEscape c)

def setMember (token : Token) : Reader SetItem :=
  match token with
  | .escaped c => setEscape c
  | .plain c => return .one c.toNat

/-- The members of a set up to its closing bracket, given those read so far. -/
def setItems : Nat → List SetItem → Reader (List SetItem)
  | 0, _ => malformed
  | fuel + 1, items => do
    match ← take with
    | none => malformed
    | some token =>
      if token = .plain ']' && !items.isEmpty then return items.reverse
      else
        let low ← setMember token
        if !(← accept '-') then setItems fuel (low :: items)
        else
          match ← take with
          | none => malformed
          | some (.plain ']') => return (.one 45 :: low :: items).reverse
          | some token =>
            match low, ← setMember token with
            | .one a, .one b =>
              if b < a then malformed else setItems fuel (.range a b :: items)
            | _, _ => malformed

/-- A set behind its opening bracket. -/
def bracketed (mode : Mode) : Reader Expr := do
  let negated ← accept '^'
  match ← setItems ((← get).rest.length + 1) [] with
  | [.one code] =>
    if negated then return .set mode true [.one code] else return .char mode code
  | items => return .set mode negated items

/-- The least number of repetitions that is refused. -/
def repetitionLimit : Nat := 0xffffffff

/-- The bounds of a repetition in braces; `none` means that the brace stands for itself. -/
def braceBounds : Reader (Option (Nat × Option Nat)) := do
  let start ← get
  let length := start.rest.length
  if start.rest.head? = some (.plain '}') then return none
  let low ← takeWhile isDecimal length
  let high ← if ← accept ',' then takeWhile isDecimal length else pure low
  if !(← accept '}') then
    set start
    return none
  let least := numeral 10 low
  if repetitionLimit ≤ least then throw .countTooLarge
  if high.isEmpty then return some (least, none)
  let most := numeral 10 high
  if repetitionLimit ≤ most then throw .countTooLarge
  if most < least then malformed
  return some (least, some most)

/-- The last item of a sequence, repeated. Anchors and repetitions cannot be repeated. -/
def repeatLast (low : Nat) (high : Option Nat) : List Expr → Reader (List Expr)
  | [] => malformed
  | .anchor .. :: _ => malformed
  | .repeated .. :: _ => malformed
  | last :: before => do
    if (← get).templateAsked then malformed
    else if ← accept '?' then return .repeated low high .fewest last :: before
    else if ← accept '+' then return .repeated low high .possessive last :: before
    else return .repeated low high .most last :: before

/-- Items of a sequence, the last one first. -/
def sequence (items : List Expr) : Expr :=
  match items with
  | [] => .empty
  | last :: before => before.foldl (fun rest item => .seq item rest) last

/-- Modes turned on in a group of flags. -/
structure Flags where
  letters : List Char := []

namespace Flags

def has (flags : Flags) (c : Char) : Bool := flags.letters.contains c

def turnOn (flags : Flags) (mode : Mode) : Mode where
  ignoreCase := mode.ignoreCase || flags.has 'i'
  multiline := mode.multiline || flags.has 'm'
  dotAll := mode.dotAll || flags.has 's'
  verbose := mode.verbose || flags.has 'x'
  ascii := if flags.has 'a' then true else if flags.has 'u' then false else mode.ascii

def turnOff (flags : Flags) (mode : Mode) : Mode where
  ignoreCase := mode.ignoreCase && !flags.has 'i'
  multiline := mode.multiline && !flags.has 'm'
  dotAll := mode.dotAll && !flags.has 's'
  verbose := mode.verbose && !flags.has 'x'
  ascii := mode.ascii

end Flags

/-- A letter of a mode. -/
def isFlag (c : Char) : Bool := ['i', 'm', 's', 'x', 'a', 't', 'u'].contains c

/-- Flags from a first letter on, up to the character that ends them. -/
def flagLetters (ends : List Char) : Nat → Char → List Char → Reader (List Char × Char)
  | 0, _, _ => malformed
  | fuel + 1, c, letters => do
    if !isFlag c then malformed
    else
      let letters := c :: letters
      if letters.contains 'a' && letters.contains 'u' then malformed
      else
        match ← take with
        | some (.plain next) =>
          if ends.contains next then return (letters, next) else flagLetters ends fuel next letters
        | _ => malformed

/-- A group of flags behind its question mark: modes for the whole expression, or those for the
group that follows. -/
def flagGroup (c : Char) (mode : Mode) : Reader (Option Mode × Flags) := do
  let fuel := (← get).rest.length + 1
  let (on, ending) ← if c = '-' then pure ([], '-') else flagLetters [')', '-', ':'] fuel c []
  if ending = ')' then return (none, ⟨on⟩)
  if on.contains 't' then malformed
  let off ←
    if ending = '-' then
      match ← take with
      | some (.plain first) => pure (← flagLetters [':'] fuel first []).1
      | _ => malformed
    else pure []
  if off.any fun c => c = 'a' || c = 'u' || c = 't' || on.contains c then malformed
  return (some ((Flags.mk off).turnOff ((Flags.mk on).turnOn mode)), ⟨[]⟩)

def isGroupName : List Char → Bool
  | [] => false
  | c :: rest =>
    Text.identifierStartRanges.contains c.toNat &&
      rest.all fun c => Text.identifierPartRanges.contains c.toNat

/-- Opens a capturing group and gives its number. -/
def openGroup (name : Option String) : Reader Nat := do
  let s ← get
  let number := s.widths.length
  if name.any fun name => (s.names.lookup name).isSome then malformed
  else
    set { s with
      widths := s.widths ++ [none]
      names := match name with
        | some name => (name, number) :: s.names
        | none => s.names }
    return number

def closeGroup (number : Nat) (body : Expr) : Reader Unit :=
  modify fun s => { s with widths := s.widths.set number (some body.width) }

def conditionGroup (name : List Char) : Reader Nat := do
  let number ←
    if isGroupName name then
      match (← get).names.lookup (String.ofList name) with
      | some number => pure number
      | none => malformed
    else
      match Text.integer? name with
      | some (.ofNat (number + 1)) =>
        modify fun s => { s with asked := (number + 1) :: s.asked }
        pure (number + 1)
      | _ => malformed
  checkReference number true
  return number

/-- The characters that count as layout in verbose mode. -/
def isLayout (c : Char) : Bool := c = ' ' || ('\t' ≤ c && c ≤ '\r')

/-- Skips a comment of verbose mode up to the end of its line. -/
def skipLine : Reader Unit :=
  modify fun s => { s with rest := (s.rest.dropWhile (· ≠ .plain '\n')).tail }

mutual

/-- Alternatives up to a closing parenthesis or the end. -/
def alternatives (fuel : Nat) (mode : Mode) (outermost first : Bool) : Reader Expr :=
  match fuel with
  | 0 => malformed
  | fuel + 1 => do
    let branch ← branchFrom fuel mode (outermost && first) []
    if ← accept '|' then
      let whole := (← get).mode
      return .alt branch (← alternatives fuel (if outermost then whole else mode) outermost false)
    else return branch

/-- One alternative, given the items read so far. Modes for the whole expression may be set at its
very start. -/
def branchFrom (fuel : Nat) (mode : Mode) (start : Bool) (items : List Expr) : Reader Expr :=
  match fuel with
  | 0 => malformed
  | fuel + 1 => do
    match ← peek with
    | none => return sequence items
    | some (.plain '|') => return sequence items
    | some (.plain ')') => return sequence items
    | some (.escaped c) =>
      advance
      branchFrom fuel mode start ((← escape mode c) :: items)
    | some (.plain c) =>
      advance
      if mode.verbose && isLayout c then branchFrom fuel mode start items
      else if mode.verbose && c = '#' then
        skipLine
        branchFrom fuel mode start items
      else
        match c with
        | '[' => branchFrom fuel mode start ((← bracketed mode) :: items)
        | '.' => branchFrom fuel mode start (.any mode :: items)
        | '^' => branchFrom fuel mode start (.anchor mode .lineStart :: items)
        | '$' => branchFrom fuel mode start (.anchor mode .lineEnd :: items)
        | '*' => branchFrom fuel mode start (← repeatLast 0 none items)
        | '+' => branchFrom fuel mode start (← repeatLast 1 none items)
        | '?' => branchFrom fuel mode start (← repeatLast 0 (some 1) items)
        | '\x7b' =>
          match ← braceBounds with
          | some (low, high) => branchFrom fuel mode start (← repeatLast low high items)
          | none => branchFrom fuel mode start (.char mode c.toNat :: items)
        | '(' =>
          if ← accept '?' then extension fuel mode start items
          else
            let number ← openGroup none
            let body ← alternatives fuel mode false false
            expect ')'
            closeGroup number body
            branchFrom fuel mode start (.group (some number) body :: items)
        | _ => branchFrom fuel mode start (.char mode c.toNat :: items)

/-- A group that starts with a question mark, and what follows it. -/
def extension (fuel : Nat) (mode : Mode) (start : Bool) (items : List Expr) : Reader Expr :=
  match fuel with
  | 0 => malformed
  | fuel + 1 => do
    match ← take with
    | some (.plain ':') =>
      let body ← alternatives fuel mode false false
      expect ')'
      branchFrom fuel mode start (.group none body :: items)
    | some (.plain '>') =>
      let body ← alternatives fuel mode false false
      expect ')'
      branchFrom fuel mode start (.atomic body :: items)
    | some (.plain '#') =>
      let s ← get
      match s.rest.dropWhile (· ≠ .plain ')') with
      | [] => malformed
      | _ :: rest =>
        set { s with rest }
        branchFrom fuel mode start items
    | some (.plain '=') =>
      let body ← alternatives fuel mode false false
      expect ')'
      branchFrom fuel mode start (.ahead false body :: items)
    | some (.plain '!') =>
      let body ← alternatives fuel mode false false
      expect ')'
      branchFrom fuel mode start (.ahead true body :: items)
    | some (.plain '<') =>
      let direction ← take
      if direction ≠ some (.plain '=') && direction ≠ some (.plain '!') then malformed
      else
        let outer := (← get).behindFrom
        modify fun s => { s with behindFrom := some (outer.getD s.widths.length) }
        let body ← alternatives fuel mode false false
        modify fun s => { s with behindFrom := outer }
        expect ')'
        let width := body.width
        if width.high ≠ some width.low || repetitionLimit < width.low then malformed
        else
          let negated := direction = some (.plain '!')
          branchFrom fuel mode start (.behind negated width.low body :: items)
    | some (.plain '(') =>
      let number ← conditionGroup (← takeUntil ')')
      let yes ← branchFrom fuel mode false []
      let no ← if ← accept '|' then branchFrom fuel mode false [] else pure .empty
      expect ')'
      branchFrom fuel mode start (.ifGroup number yes no :: items)
    | some (.plain 'P') =>
      if ← accept '<' then
        let name ← takeUntil '>'
        if !isGroupName name then malformed
        else
          let number ← openGroup (some (String.ofList name))
          let body ← alternatives fuel mode false false
          expect ')'
          closeGroup number body
          branchFrom fuel mode start (.group (some number) body :: items)
      else if ← accept '=' then
        let name ← takeUntil ')'
        let names := (← get).names
        match names.lookup (String.ofList name) with
        | some number => branchFrom fuel mode start ((← groupReference mode number) :: items)
        | none => malformed
      else malformed
    | some (.plain c) =>
      match ← flagGroup c mode with
      | (some inner, _) =>
        let body ← alternatives fuel inner false false
        expect ')'
        branchFrom fuel mode start (.group none body :: items)
      | (none, flags) =>
        if !start || !items.isEmpty then malformed
        else
          modify fun s => { s with
            mode := flags.turnOn s.mode
            asciiAsked := s.asciiAsked || flags.has 'a'
            unicodeAsked := s.unicodeAsked || flags.has 'u'
            templateAsked := s.templateAsked || flags.has 't' }
          branchFrom fuel (flags.turnOn mode) start items
    | _ => malformed

end

def expression : Reader Expr := do
  let length := (← get).rest.length
  let expr ← alternatives (3 * length + 3) {} true true
  let s ← get
  if s.asciiAsked && s.unicodeAsked then throw .conflictingModes
  if !s.rest.isEmpty then malformed
  if s.asked.any (s.widths.length ≤ ·) then malformed
  return expr

end JavadocAudit.Pattern

import JavadocAudit.Source.Tree

/-!
# Rules for reading trees

A rule describes sequences of tokens. Alternatives are ordered: the first that fits is taken, and a
repetition takes as much as it can. Rules refer to each other by name, so reading is bounded by the
number of steps it may take; running out of steps is kept apart from not fitting.
-/

namespace JavadocAudit.Source

/-- A single token that a rule asks for. -/
inductive Terminal where
  | word (text : String)
  | symbol (text : String)
  /-- A symbol with nothing between it and the token before. -/
  | glued (text : String)
  /-- A word with nothing between it and the token before. -/
  | gluedWord (text : String)
  /-- Any word, keywords included. -/
  | anyWord
  /-- A word that is no keyword. -/
  | identifier
  | number
  | character
  | text
  deriving DecidableEq, Repr

/-- A token is what is asked for. -/
def Terminal.accepts (terminal : Terminal) (token : Token) : Bool :=
  match terminal with
  | .word s => token.isWord s
  | .symbol s => token.isSymbol s
  | .glued s => token.isSymbol s && token.isGlued
  | .gluedWord s => token.isWord s && token.isGlued
  | .anyWord => token.kind = .word
  | .identifier => token.kind = .word && !Token.keywords.contains token.text
  | .number => token.kind = .number
  | .character => token.kind = .character
  | .text => token.kind = .text

/-- A rule for sequences of tokens, with names from `ι` for other rules. -/
inductive Rule (ι : Type) where
  | nothing
  | terminal (t : Terminal)
  | both (first second : Rule ι)
  | either (first second : Rule ι)
  | many (rule : Rule ι)
  /-- Fits in front of what the rule does not fit, and takes nothing. -/
  | absent (rule : Rule ι)
  | node (kind : Tree.Kind) (rule : Rule ι)
  | ref (name : ι)

inductive Outcome where
  | accepted (trees : List Tree) (rest : List Token)
  | refused
  | exhausted

namespace Rule

variable {ι : Type}

def seq (rules : List (Rule ι)) : Rule ι := rules.foldr both nothing

/-- The first of several rules that fits. -/
def oneOf : List (Rule ι) → Rule ι
  | [] => absent nothing
  | [rule] => rule
  | rule :: rest => either rule (oneOf rest)

def opt (rule : Rule ι) : Rule ι := either rule nothing

def atLeastOne (rule : Rule ι) : Rule ι := both rule (many rule)

/-- A rule at least once, with another one in between. -/
def sepBy (rule separator : Rule ι) : Rule ι := both rule (many (both separator rule))

/-- Fits in front of what the rule fits, and takes nothing. -/
def ahead (rule : Rule ι) : Rule ι := absent (absent rule)

def word (text : String) : Rule ι := terminal (.word text)

def sym (text : String) : Rule ι := terminal (.symbol text)

def words (texts : List String) : Rule ι := oneOf (texts.map word)

/-- One of several symbols. -/
def syms (texts : List String) : Rule ι := oneOf (texts.map sym)

/-- Reads the start of some tokens by a rule, in a bounded number of steps. -/
def run (grammar : ι → Rule ι) : Nat → Rule ι → List Token → Outcome
  | 0, _, _ => .exhausted
  | fuel + 1, rule, tokens =>
    match rule with
    | nothing => .accepted [] tokens
    | terminal t =>
      match tokens with
      | [] => .refused
      | token :: rest => if t.accepts token then .accepted [.leaf token] rest else .refused
    | both first second =>
      match run grammar fuel first tokens with
      | .accepted trees rest =>
        match run grammar fuel second rest with
        | .accepted more rest => .accepted (trees ++ more) rest
        | other => other
      | other => other
    | either first second =>
      match run grammar fuel first tokens with
      | .refused => run grammar fuel second tokens
      | other => other
    | many rule =>
      match run grammar fuel rule tokens with
      | .refused => .accepted [] tokens
      | .exhausted => .exhausted
      | .accepted trees rest =>
        match run grammar fuel (many rule) rest with
        | .accepted more rest => .accepted (trees ++ more) rest
        | other => other
    | absent rule =>
      match run grammar fuel rule tokens with
      | .refused => .accepted [] tokens
      | .accepted _ _ => .refused
      | .exhausted => .exhausted
    | node kind rule =>
      match run grammar fuel rule tokens with
      | .accepted trees rest => .accepted [.node kind trees] rest
      | other => other
    | ref name => run grammar fuel (grammar name) tokens

end Rule

end JavadocAudit.Source

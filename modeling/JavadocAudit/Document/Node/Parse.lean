import JavadocAudit.Dict
import JavadocAudit.Document.Node.Kind
import JavadocAudit.Document.Token.Basic

/-!
# Building nodes from tokens

Each construct of a document is known by its first token. Nodes with an anchor are kept so that
aliases can be replaced by them; an alias inside the node it stands for remains as a recurrence.
A text has at most one document.
-/

namespace JavadocAudit.Document

/-- The tokens that are left and the nodes that have a name. -/
structure Parsing where
  tokens : List Token
  anchors : Dict String Node := []

/-- A step of building nodes. -/
abbrev Parser := StateT Parsing Reading

namespace Parser

def peek : Parser (Option Token) := do return (← get).tokens.head?

/-- Goes on behind the next token. -/
def advance : Parser Unit := modify fun s => { s with tokens := s.tokens.tail }

/-- The next token is one of the given ones. -/
def peekIn (tokens : List Token) : Parser Bool := do return (← peek).any tokens.contains

/-- Goes on behind a given token if it is the next one, and tells whether it was. -/
def accept (token : Token) : Parser Bool := do
  if (← peek) = some token then
    advance
    return true
  return false

/-- Goes on behind a given token, which has to come next. -/
def expect (token : Token) : Parser Unit := do
  unless ← accept token do throw .malformed

def define (name : String) (node : Node) : Parser Unit :=
  modify fun s => { s with anchors := s.anchors.insert name node }

/-- Builds a collection, which can be named inside itself. -/
def collection (anchor : Option String) (isMap : Bool) (build : Parser Node) : Parser Node := do
  match anchor with
  | none => build
  | some name =>
    define name (.recurrence isMap)
    let node ← build
    define name node
    return node

/-- The name of the next node, if it has one. A name is given only once. -/
def anchor? : Parser (Option String) := do
  match ← peek with
  | some (.anchor name) =>
    advance
    return some name
  | _ => return none

/-- The tag of the next node, if it has one, with its handle written out. -/
def tag? (handles : Dict String String) : Parser (Option String) := do
  match ← peek with
  | some (.tag handle suffix) =>
    advance
    match handle with
    | none => return some suffix
    | some handle =>
      match handles.get? handle with
      | some start => return some (start ++ suffix)
      | none => throw .malformed
  | _ => return none

/-- The name and the tag of the next node, in either order. -/
def properties (handles : Dict String String) : Parser (Option String × Option String) := do
  match ← anchor? with
  | some name => return (some name, ← tag? handles)
  | none =>
    match ← tag? handles with
    | some tag => return (← anchor?, some tag)
    | none => return (none, none)

def collectionKind (tag : Option String) (usual : Node.Kind) : Node.Kind :=
  match tag with
  | none => usual
  | some "!" => usual
  | some tag => .ofTag tag

/-- The kind of a scalar. Quotes make it text, unless it has the tag that asks for its kind to be
found from the text. -/
def scalarKind (tag : Option String) (text : String) (isPlain : Bool) : Node.Kind :=
  match tag with
  | none => if isPlain then .ofText text else .text
  | some "!" => .ofText text
  | some tag => .ofTag tag

/-- The tokens behind which an entry of a list has nothing. -/
def listEnds : List Token := [.blockEntry, .blockEnd]

/-- The tokens behind which an entry of a list without indentation has nothing. -/
def flushEnds : List Token := [.blockEntry, .key, .value, .blockEnd]

/-- The tokens behind which a key or value in lines is missing. -/
def mapEnds : List Token := [.key, .value, .blockEnd]

/-- A node, or nothing before one of the given tokens. -/
def orEmpty (ends : List Token) (node : Parser Node) : Parser Node := do
  if ← peekIn ends then return .empty
  node

mutual

/-- A node. A list without indentation can be the key or value of a mapping, and collections in
lines cannot stand between brackets. -/
def node (handles : Dict String String) : Nat → Bool → Bool → Parser Node
  | 0, _, _ => throw .malformed
  | fuel + 1, inLines, flush => do
    if let some (.alias name) ← peek then
      advance
      match (← get).anchors.get? name with
      | some node => return node
      | none => throw .malformed
    let (anchor, tag) ← properties handles
    if let some name := anchor then
      if ((← get).anchors.get? name).isSome then throw .malformed
    let list (build : Parser (List Node)) := collection anchor false do
      return .list (collectionKind tag .list) (← build)
    let map (build : Parser (List (Node × Node))) := collection anchor true do
      return .map (collectionKind tag .map) (← build)
    match ← peek with
    | some (.scalar text isPlain) =>
      advance
      let node := Node.scalar (scalarKind tag text isPlain) text
      if let some name := anchor then define name node
      return node
    | some .flowSequenceStart =>
      advance
      list (bracketItems handles fuel true)
    | some .flowMappingStart =>
      advance
      map (bracketEntries handles fuel true)
    | token =>
      if flush && token = some .blockEntry then list (flushItems handles fuel)
      else if inLines && token = some .blockSequenceStart then
        advance
        list (lineItems handles fuel)
      else if inLines && token = some .blockMappingStart then
        advance
        map (lineEntries handles fuel)
      else if anchor.isSome || tag.isSome then
        let node := Node.scalar (scalarKind tag "" true) ""
        if let some name := anchor then define name node
        return node
      else throw .malformed

def lineItems (handles : Dict String String) : Nat → Parser (List Node)
  | 0 => throw .malformed
  | fuel + 1 => do
    if ← accept .blockEntry then
      let item ← orEmpty listEnds (node handles fuel true false)
      return item :: (← lineItems handles fuel)
    expect .blockEnd
    return []

def flushItems (handles : Dict String String) : Nat → Parser (List Node)
  | 0 => throw .malformed
  | fuel + 1 => do
    if ← accept .blockEntry then
      let item ← orEmpty flushEnds (node handles fuel true false)
      return item :: (← flushItems handles fuel)
    return []

def lineEntries (handles : Dict String String) : Nat → Parser (List (Node × Node))
  | 0 => throw .malformed
  | fuel + 1 => do
    if ← accept .key then
      let key ← orEmpty mapEnds (node handles fuel true true)
      let value ←
        if ← accept .value then orEmpty mapEnds (node handles fuel true true) else pure .empty
      return (key, value) :: (← lineEntries handles fuel)
    if ← accept .blockEnd then return []
    throw .malformed

/-- The items of a list between brackets. An item may be a single entry of a mapping. -/
def bracketItems (handles : Dict String String) : Nat → Bool → Parser (List Node)
  | 0, _ => throw .malformed
  | fuel + 1, isFirst => do
    if ← accept .flowSequenceEnd then return []
    if !isFirst then expect .flowEntry
    if ← accept .key then
      let entry ← bracketEntry handles fuel .flowSequenceEnd
      return .map .map [entry] :: (← bracketItems handles fuel false)
    if ← accept .flowSequenceEnd then return []
    let item ← node handles fuel false false
    return item :: (← bracketItems handles fuel false)

/-- The entries of a mapping between brackets. A key may lack its value. -/
def bracketEntries (handles : Dict String String) : Nat → Bool → Parser (List (Node × Node))
  | 0, _ => throw .malformed
  | fuel + 1, isFirst => do
    if ← accept .flowMappingEnd then return []
    if !isFirst then expect .flowEntry
    if ← accept .key then
      let entry ← bracketEntry handles fuel .flowMappingEnd
      return entry :: (← bracketEntries handles fuel false)
    if ← accept .flowMappingEnd then return []
    let key ← node handles fuel false false
    return (key, .empty) :: (← bracketEntries handles fuel false)

/-- The entry behind the mark of a key, up to a comma or the closing bracket. -/
def bracketEntry (handles : Dict String String) : Nat → Token → Parser (Node × Node)
  | 0, _ => throw .malformed
  | fuel + 1, close => do
    let key ← orEmpty [.value, .flowEntry, close] (node handles fuel false false)
    let value ←
      if ← accept .value then orEmpty [.flowEntry, close] (node handles fuel false false)
      else pure .empty
    return (key, value)

end

/-- Directives before a document: the handles that they define. The version can be given once, and
has to be 1. -/
def directives : List Token → Bool → Dict String String →
    Reading (Dict String String × List Token)
  | .directive (.version major _) :: rest, versionKnown, handles =>
    if versionKnown || major ≠ 1 then throw .malformed else directives rest true handles
  | .directive (.tag handle start) :: rest, versionKnown, handles =>
    if (handles.get? handle).isSome then throw .malformed
    else directives rest versionKnown (handles.insert handle start)
  | .directive (.other _) :: rest, versionKnown, handles => directives rest versionKnown handles
  | tokens, _, handles => return (handles, tokens)

/-- The handles that need no directive. -/
def standardHandles : Dict String String := [("!", "!"), ("!!", Node.tagStart)]

/-- A token behind which a started document has nothing. -/
def endsDocument : Option Token → Bool
  | none => true
  | some (.directive _) => true
  | some token => token = .documentStart || token = .documentEnd

/-- The node of a document from its first token on, and the tokens behind it. -/
def root (handles : Dict String String) (tokens : List Token) : Reading (Node × List Token) := do
  let (node, state) ← (node handles (3 * tokens.length + 3) true false).run { tokens }
  return (node, state.tokens)

end Parser

/-- The document that tokens make up; `none` if there is nothing. -/
def Node.ofTokens (tokens : List Token) : Reading (Option Node) := do
  let (node, rest) ← match tokens with
    | [] => return none
    | first :: _ =>
      if first = .documentEnd || !Parser.endsDocument (some first) then
        Parser.root Parser.standardHandles tokens
      else do
        let (handles, rest) ← Parser.directives tokens false []
        match rest with
        | .documentStart :: rest =>
          if Parser.endsDocument rest.head? then pure (Node.empty, rest)
          else Parser.root (Parser.standardHandles.merge handles) rest
        | _ => throw .malformed
  if rest.all (· = .documentEnd) then return some node else throw .malformed

end JavadocAudit.Document

import JavadocAudit.Source.Token.Basic

/-!
# Trees of Java source

A source text is read into a tree whose leaves are its tokens. Only the constructs that the checks
are about have nodes of their own; what stands inside other constructs belongs to the node around
them. Remarks are then put in between the tokens, each into the innermost node that has tokens both
before and behind the remark.
-/

namespace JavadocAudit.Source

/-- The constructs that have nodes. -/
inductive Tree.Kind where
  | package
  | importLine
  | typeDeclaration
  | superclass
  /-- The body of an interface, whose methods are public. -/
  | interfaceBody
  | method
  | constructor
  | modifiers
  | annot
  | name
  | typeParameters
  | typeParameter
  | parameters
  | parameter
  | throws
  | type
  | typeArguments
  /-- The body of a method or constructor. -/
  | body
  deriving DecidableEq, Repr

/-- A tree of tokens and remarks. -/
inductive Tree where
  | leaf (token : Token)
  | remark (r : Remark)
  | node (kind : Tree.Kind) (children : List Tree)

namespace Tree

mutual

def tokens : Tree → List Token
  | leaf token => [token]
  | remark _ => []
  | node _ children => tokensOf children

def tokensOf : List Tree → List Token
  | [] => []
  | tree :: rest => tree.tokens ++ tokensOf rest

end

/-- The text of a tree as it was written. -/
def text (tree : Tree) : String := Token.textOf tree.tokens

def isNode (kind : Kind) : Tree → Bool
  | node k _ => k = kind
  | _ => false

def children : Tree → List Tree
  | node _ children => children
  | _ => []

/-- The parts that are nodes of a kind. -/
def all (kind : Kind) (tree : Tree) : List Tree := tree.children.filter (isNode kind)

def child? (kind : Kind) (tree : Tree) : Option Tree := tree.children.find? (isNode kind)

/-- The tokens among the parts. -/
def leaves (tree : Tree) : List Token :=
  tree.children.filterMap fun child =>
    match child with
    | leaf token => some token
    | _ => none

/-- A given word is among the parts. -/
def hasWord (text : String) (tree : Tree) : Bool := tree.leaves.any (·.isWord text)

/-- A given symbol is among the parts. -/
def hasSymbol (text : String) (tree : Tree) : Bool := tree.leaves.any (·.isSymbol text)

/-- Where a tree starts. -/
def point (tree : Tree) : Point :=
  match tree.tokens.head? with
  | some token => token.point
  | none => ⟨0, 0⟩

/-- The remarks before the first token of a tree. -/
def leadingRemarks (tree : Tree) : List Tree :=
  match tree.tokens.head? with
  | some token => token.remarks.map remark
  | none => []

mutual

/-- The tree with the remarks between its tokens. Those before its first token are not part of it.
-/
def withRemarks : Tree → Tree
  | node kind (first :: rest) => node kind (first.withRemarks :: allWithRemarks rest)
  | tree => tree

/-- The trees with the remarks in and before them. -/
def allWithRemarks : List Tree → List Tree
  | [] => []
  | tree :: rest => tree.leadingRemarks ++ tree.withRemarks :: allWithRemarks rest

end

mutual

/-- The number of parts of a tree, itself included. -/
def size : Tree → Nat
  | node _ children => 1 + sizeOfAll children
  | _ => 1

/-- The number of parts of trees. -/
def sizeOfAll : List Tree → Nat
  | [] => 0
  | tree :: rest => tree.size + sizeOfAll rest

end

theorem size_eq (tree : Tree) : tree.size = 1 + sizeOfAll tree.children := by
  cases tree <;> rfl

end Tree

end JavadocAudit.Source

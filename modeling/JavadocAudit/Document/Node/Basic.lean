/-!
# Nodes of a configuration document

A document is a tree of scalars, lists and mappings. Each node has a kind, given by its tag or
found from its text, which says what value it stands for.
-/

namespace JavadocAudit.Document

inductive Node.Kind where
  | null
  | bool
  | int
  | float
  | binary
  | time
  | text
  | list
  | map
  | set
  /-- A list of mappings with one entry each. -/
  | pairs
  /-- The key of entries that are taken over from another mapping. -/
  | merge
  /-- The key of the value that a mapping has when a scalar is wanted. -/
  | default
  /-- Nothing that is known. -/
  | unknown
  deriving DecidableEq, Repr

/-- A node of a document, with its aliases replaced by what they stand for. -/
inductive Node where
  | scalar (kind : Node.Kind) (text : String)
  | list (kind : Node.Kind) (items : List Node)
  | map (kind : Node.Kind) (entries : List (Node × Node))
  /-- An alias of a collection that the alias is part of. -/
  | recurrence (isMap : Bool)

namespace Node

/-- The node where nothing is written. -/
def empty : Node := .scalar .null ""

/-- The kind of a node, if a tag or its text decides it. -/
def kind? : Node → Option Kind
  | scalar kind _ => some kind
  | list kind _ => some kind
  | map kind _ => some kind
  | recurrence _ => none

def tagStart : String := "tag:yaml.org,2002:"

def Kind.ofTag (tag : String) : Kind :=
  let names : List (String × Kind) :=
    [("null", null), ("bool", bool), ("int", int), ("float", float), ("binary", binary),
     ("timestamp", time), ("str", text), ("seq", list), ("map", map), ("set", set),
     ("omap", pairs), ("pairs", pairs), ("merge", merge), ("value", default)]
  ((names.map fun (name, kind) => (tagStart ++ name, kind)).lookup tag).getD unknown

end Node

end JavadocAudit.Document

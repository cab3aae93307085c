/-!
# Tokens of a configuration document

Configuration documents are written in YAML 1.1. Indentation and punctuation become tokens that open
and close collections and separate their entries; the content becomes scalars with their anchors,
aliases and tags.
-/

namespace JavadocAudit.Document

/-- A line that says something about the document that follows. -/
inductive Directive where
  | version (major minor : Nat)
  | tag (handle start : String)
  | other (name : String)
  deriving DecidableEq, Repr

inductive Token where
  | directive (d : Directive)
  | documentStart
  | documentEnd
  | blockSequenceStart
  | blockMappingStart
  | blockEnd
  | flowSequenceStart
  | flowSequenceEnd
  | flowMappingStart
  | flowMappingEnd
  | blockEntry
  | flowEntry
  | key
  | value
  | alias (name : String)
  | anchor (name : String)
  /-- The start of a tag that a directive defines, if it has one, and the rest. -/
  | tag (handle : Option String) (suffix : String)
  | scalar (text : String) (isPlain : Bool)
  deriving DecidableEq, Repr

end JavadocAudit.Document

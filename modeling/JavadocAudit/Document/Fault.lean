/-!
# Faults of configuration documents

Nearly all that can be wrong with a document makes it malformed. The values of scalars have faults
of their own.
-/

namespace JavadocAudit.Document

/-- Why a document cannot be read. -/
inductive Fault where
  /-- The text is not a document. -/
  | malformed
  /-- An escaped character is beyond the last code point. -/
  | badCharacter
  /-- An escape stands for a surrogate, which no text here can hold. -/
  | surrogate
  /-- A scalar that has to be a number is none. -/
  | badNumber
  /-- A scalar that has to be a number has no digits at all. -/
  | emptyNumber
  /-- The places of a number go beyond all numbers. -/
  | numberTooLarge
  /-- A day or time that the calendar or the clock does not have. -/
  | badTime
  /-- A scalar that has to be a time does not look like one. -/
  | noTime
  /-- A mapping that has to be a time, and has a default value. -/
  | mappedTime
  /-- A scalar that has to be a switch is another word. -/
  | unknownSwitch
  deriving DecidableEq, Repr

/-- The outcome of reading part of a document. -/
abbrev Reading (α : Type) := Except Fault α

end JavadocAudit.Document

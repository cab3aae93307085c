import JavadocAudit.Settings
import JavadocAudit.Suppression

/-!
# Libraries that read and check configurations

Documents are read and their values checked by libraries. A library is known by what it makes of its
arguments: it gives a value, or the error that it documents, or it raises any other exception. What
its data are like inside is its own affair; a configuration only tells mappings and lists from other
data.
-/

namespace JavadocAudit.Config

/-- What a library raises: an error that it documents, or anything else. -/
inductive Raised (error exception : Type) where
  | documented (e : error)
  | other (e : exception)

/-- What data look like from outside. -/
inductive Shape (key data : Type) where
  | nothing
  | mapping (entries : List (key × data))
  | list (items : List data)
  | other (isVoid : Bool)

/-- Data that stand for nothing: no value, no number, no text, no parts. -/
def Shape.isVoid {key data : Type} : Shape key data → Bool
  | nothing => true
  | mapping entries => entries.isEmpty
  | list items => items.isEmpty
  | other isVoid => isVoid

/-- The functions of the libraries. Faults of values are of type `invalid`, and what is not
documented is of type `exception`. -/
structure Library (key data invalid exception : Type) where
  /-- The data of a document, or what the error says. -/
  load : List Char → Except (Raised String exception) data
  shape : data → Shape key data
  /-- The key is this text. -/
  isText : key → String → Bool
  settings : List (key × data) → Except (Raised invalid exception) Settings
  suppression : data → Except (Raised invalid exception) Suppression
  /-- The text of the faults of a value. -/
  describe : invalid → String

namespace Library

variable {key data invalid exception : Type} (library : Library key data invalid exception)

def entry? (entries : List (key × data)) (name : String) : Option data :=
  (entries.find? fun entry => library.isText entry.1 name).map (·.2)

end Library

end JavadocAudit.Config

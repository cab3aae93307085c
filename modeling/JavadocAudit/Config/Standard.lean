import JavadocAudit.Config.Basic
import JavadocAudit.Config.Decode
import JavadocAudit.Document.Construction

/-!
# The libraries at hand

Documents are read by `Document.read` and checked by `decodeSettings` and `decodeSuppression`. They
leave out what the libraries of a host add: the details of their messages, limits of nesting,
escapes of surrogates and characters given by name.
-/

namespace JavadocAudit.Config

/-- The faults of the values of a model. -/
structure Invalid where
  model : String
  issues : List Issue

/-- The first line of what is said about values. -/
def Invalid.describe (invalid : Invalid) : String :=
  let count := invalid.issues.length
  let errors := if count = 1 then "error" else "errors"
  s!"{count} validation {errors} for {invalid.model}"

inductive Exception where
  | document (fault : Document.Fault)
  | pattern (fault : Pattern.Fault)

def Decoded.checked {α : Type} (model : String) :
    Decoded α → Except (Raised Invalid Exception) α
  | .ok a => .ok a
  | .error (.issues issues) => .error (.documented ⟨model, issues⟩)
  | .error (.raised fault) => .error (.other (.pattern fault))

def settingsModel : String := "CheckSettings"

def suppressionModel : String := "Suppression"

namespace Library

def standard : Library Scalar Value Invalid Exception where
  load text :=
    match Document.read text with
    | .ok value => .ok (value.getD (.scalar .null))
    | .error .malformed => .error (.documented "")
    | .error fault => .error (.other (.document fault))
  shape
    | .scalar .null => .nothing
    | .map entries => .mapping entries
    | .list items => .list items
    | value => .other value.isVoid
  isText key name := key == .text name
  settings entries := (decodeSettings entries).checked settingsModel
  suppression value := (decodeSuppression value).checked suppressionModel
  describe := Invalid.describe

end Library

end JavadocAudit.Config

import JavadocAudit.Config.Value
import JavadocAudit.Document.Base64
import JavadocAudit.Document.Node.Parse
import JavadocAudit.Document.Number
import JavadocAudit.Document.Token.Scan
import JavadocAudit.Text.Case

/-!
# The value of a document

Every node has a value according to its kind. Collections are filled level by level, so of several
faults in a document the outermost counts, and among those of one level the first.
-/

namespace JavadocAudit.Document

open JavadocAudit.Config

/-- A fault with the number of collections around it. -/
structure PlacedFault where
  depth : Nat
  fault : Fault

/-- The outcome of finding a value. -/
abbrev Built (α : Type) := Except PlacedFault α

namespace Built

variable {α β γ : Type}

def fail (depth : Nat) (fault : Fault) : Built α := .error ⟨depth, fault⟩

def placed (depth : Nat) : Reading α → Built α
  | .ok a => .ok a
  | .error fault => fail depth fault

/-- Two outcomes together; of two faults the outer one counts, and the first at the same depth. -/
def both (combine : α → β → γ) : Built α → Built β → Built γ
  | .ok a, .ok b => .ok (combine a b)
  | .error first, .error second => .error (if second.depth < first.depth then second else first)
  | .error fault, .ok _ => .error fault
  | .ok _, .error fault => .error fault

/-- All outcomes together. -/
def all : List (Built α) → Built (List α)
  | [] => .ok []
  | first :: rest => both List.cons first (all rest)

end Built

namespace Node

mutual

/-- The text that a node has as a scalar: a mapping stands for its default value. -/
def scalarText? : Node → Option String
  | scalar _ text => some text
  | map _ entries => defaultText? entries
  | _ => none

/-- The text of the default value among entries. -/
def defaultText? : List (Node × Node) → Option String
  | [] => none
  | (key, value) :: rest =>
    if key.kind? = some .default then value.scalarText? else defaultText? rest

end

/-- The value of a scalar, given its text if it has one. Collections fail only when they are
filled. -/
def scalarValue (depth : Nat) (kind : Kind) (text? : Option String) : Built Value :=
  match kind, text? with
  | .null, some _ => .ok (.scalar .null)
  | .bool, some text =>
    let word := String.ofList (Text.lower text.toList)
    if ["yes", "true", "on"].contains word then .ok (.scalar (.bool true))
    else if ["no", "false", "off"].contains word then .ok (.scalar (.bool false))
    else .fail depth .unknownSwitch
  | .int, some text => (Built.placed depth (Number.int text)).map fun n => .scalar (.int n)
  | .float, some text => (Built.placed depth (Number.float text)).map fun x => .scalar (.float x)
  | .binary, some text =>
    match Base64.decode? text.toList with
    | some data => .ok (.scalar (.bytes data))
    | none => .fail depth .malformed
  | .time, some text =>
    (Built.placed depth (ClockTime.ofText (Kind.withoutBreak text.toList))).map .scalar
  | .text, some text => .ok (.scalar (.text text))
  | .list, _ | .map, _ | .set, _ | .pairs, _ => .fail (depth + 1) .malformed
  | _, _ => .fail depth .malformed

/-- A value as the key of a mapping, which has to be a scalar. -/
def asKey (depth : Nat) : Built Value → Built Scalar
  | .ok (.scalar s) => .ok s
  | .ok _ => .fail depth .malformed
  | .error fault => if depth < fault.depth then .fail depth .malformed else .error fault

abbrev BuiltEntry := Built (Scalar × Value)

mutual

/-- The value of a node inside a number of collections. -/
def value (depth : Nat) : Node → Built Value
  | scalar kind text => scalarValue depth kind (some text)
  | list .list items => (Built.all (values (depth + 1) items)).map .list
  | list .pairs items => (Built.all (pairValues (depth + 1) items)).map .list
  | list kind _ => scalarValue depth kind none
  | map .map entries =>
    let (merged, own) := entryValues (depth + 1) entries
    (Built.all (merged ++ own)).map fun entries =>
      .map (entries.foldl (fun map entry => Value.insertEntry map entry.1 entry.2) [])
  | map .set entries =>
    let (merged, own) := entryValues (depth + 1) entries
    (Built.all (merged ++ own)).map fun entries =>
      .set ((entries.foldl (fun map entry => Value.insertEntry map entry.1 entry.2) []).map (·.1))
  | map .time entries =>
    .fail depth (if (defaultText? entries).isSome then .mappedTime else .malformed)
  | map kind entries => scalarValue depth kind (defaultText? entries)
  | recurrence isMap => .ok (.recurrence isMap)

def values (depth : Nat) : List Node → List (Built Value)
  | [] => []
  | node :: rest => value depth node :: values depth rest

/-- The values of mappings with one entry, each as a list of two. -/
def pairValues (depth : Nat) : List Node → List (Built Value)
  | [] => []
  | node :: rest =>
    (match node with
    | map _ [(key, val)] =>
      Built.both (fun k v => Value.list [k, v]) (value depth key) (value depth val)
    | _ => .fail depth .malformed) :: pairValues depth rest

/-- The entries of a mapping: those that it takes over from others, and its own. -/
def entryValues (depth : Nat) : List (Node × Node) → List BuiltEntry × List BuiltEntry
  | [] => ([], [])
  | (key, val) :: rest =>
    let (merged, own) := entryValues depth rest
    if key.kind? = some .merge then (mergedEntries depth val ++ merged, own)
    else
      let keyValue :=
        if key.kind? = some .default then
          match scalarText? key with
          | some text => .ok (.text text)
          | none => .fail depth .malformed
        else asKey depth (value depth key)
      (merged, Built.both Prod.mk keyValue (value depth val) :: own)

/-- The entries that a mapping, or each mapping of a list, hands over. In a list the later mappings
come first. -/
def mergedEntries (depth : Nat) : Node → List BuiltEntry
  | map _ entries =>
    let (merged, own) := entryValues depth entries
    merged ++ own
  | list _ items => mergedFromAll depth items
  | recurrence true => []
  | _ => [.fail depth .malformed]

/-- The entries that the mappings of a list hand over. -/
def mergedFromAll (depth : Nat) : List Node → List BuiltEntry
  | [] => []
  | node :: rest =>
    mergedFromAll depth rest ++
      (match node with
      | map _ entries =>
        let (merged, own) := entryValues depth entries
        merged ++ own
      | recurrence true => []
      | _ => [.fail depth .malformed])

end

end Node

/-- The value of a document; `none` if the text is empty. -/
def read (text : List Char) : Reading (Option Value) := do
  match ← Node.ofTokens (← Token.scan text) with
  | none => return none
  | some node =>
    match node.value 0 with
    | .ok value => return some value
    | .error placed => throw placed.fault

end JavadocAudit.Document

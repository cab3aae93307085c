import JavadocAudit.Config.Library
import JavadocAudit.FileTree
import JavadocAudit.Log
import JavadocAudit.Text.Line
import JavadocAudit.Text.Utf8

/-!
# Configuration

A configuration gives the settings, in a section of their own or at the top level, and the list of
suppressions. It is read from a file that holds one mapping; an empty file changes nothing.
-/

namespace JavadocAudit

structure Config where
  settings : Settings := {}
  suppressions : List Suppression := []

namespace Config

/-- Why a configuration is refused. -/
inductive Fault (invalid : Type) where
  | unreadable (path : Path) (fault : SystemFault)
  | notDocument (text : String)
  | notMapping
  | sectionNotMapping
  | suppressionsNotList
  | invalidSettings (faults : invalid)
  | invalidSuppression (faults : invalid)

/-- The report on a configuration that is refused. It names the file once that is known. -/
structure Refusal (invalid : Type) where
  fault : Fault invalid
  path : Option Path := none

/-- Why no configuration can be had. -/
inductive Failure (invalid exception : Type) where
  | refused (refusal : Refusal invalid)
  | notText (fault : Text.Utf8Fault)
  | invalidPath
  /-- A library raised something that it does not document. -/
  | raised (e : exception)

def settingsKey : String := "javadoc_method"

def suppressionsKey : String := "suppressions"

variable {key data invalid exception : Type}

/-- The wording of a fault, given that of the faults of values. -/
def Fault.message (describe : invalid → String) : Fault invalid → String
  | unreadable path fault => "Cannot read config file: " ++ fault.message path
  | notDocument text => "Invalid YAML in config file: " ++ text
  | notMapping => "Config file must contain a mapping"
  | sectionNotMapping => s!"'{settingsKey}' must be a mapping"
  | suppressionsNotList => s!"'{suppressionsKey}' must be a list"
  | invalidSettings faults => "Invalid settings: " ++ describe faults
  | invalidSuppression faults => "Invalid suppression: " ++ describe faults

def Refusal.message (describe : invalid → String) (refusal : Refusal invalid) : String :=
  match refusal.path with
  | some path => path.toString ++ ": " ++ refusal.fault.message describe
  | none => refusal.fault.message describe

/-- The failure to load the configuration in a file. -/
def Failure.locate (path : Path) : Failure invalid exception → Failure invalid exception
  | refused refusal => refused { refusal with path := some path }
  | failure => failure

section

variable (exception) in
/-- A configuration that is refused before its file is known. -/
def refuse {α : Type} (fault : Fault invalid) : Except (Failure invalid exception) α :=
  .error (.refused { fault })

/-- A value that was checked, or the fault that its faults amount to. -/
def ofChecked {α : Type} (fault : invalid → Fault invalid) :
    Except (Raised invalid exception) α → Except (Failure invalid exception) α
  | .ok a => .ok a
  | .error (.documented faults) => refuse exception (fault faults)
  | .error (.other e) => .error (.raised e)

variable (library : Library key data invalid exception) (entries : List (key × data))

/-- The entries that hold the settings: a section of their own, or all but the suppressions. -/
def settingsEntries : Except (Failure invalid exception) (List (key × data)) :=
  match (library.entry? entries settingsKey).map library.shape with
  | none => .ok (entries.filter fun entry => !library.isText entry.1 suppressionsKey)
  | some (.mapping own) => .ok own
  | some shape => if shape.isVoid then .ok [] else refuse exception .sectionNotMapping

def parseSettings : Except (Failure invalid exception) Settings := do
  ofChecked .invalidSettings (library.settings (← settingsEntries library entries))

def parseSuppressions : Except (Failure invalid exception) (List Suppression) :=
  match (library.entry? entries suppressionsKey).map library.shape with
  | none => .ok []
  | some (.list items) =>
    items.mapM fun item => ofChecked .invalidSuppression (library.suppression item)
  | some shape => if shape.isVoid then .ok [] else refuse exception .suppressionsNotList

def parse : Except (Failure invalid exception) Config := do
  let settings ← parseSettings library entries
  let suppressions ← parseSuppressions library entries
  return { settings, suppressions }

end

section

variable (library : Library key data invalid exception)

/-- The mapping that a text describes. -/
def entriesOf (text : List Char) : Except (Failure invalid exception) (List (key × data)) :=
  match library.load text with
  | .error (.documented message) => refuse exception (.notDocument message)
  | .error (.other e) => .error (.raised e)
  | .ok loaded =>
    match library.shape loaded with
    | .nothing => .ok []
    | .mapping entries => .ok entries
    | _ => refuse exception .notMapping

def readText (files : FileSystem) (path : Path) : Except (Failure invalid exception) (List Char) :=
  match files.read path with
  | .error (.refused fault) => refuse exception (.unreadable path fault)
  | .error .invalidPath => .error .invalidPath
  | .ok content =>
    match Text.decodeUtf8 content with
    | .error fault => .error (.notText fault)
    | .ok text => .ok (Text.unifyBreaks text)

def load (files : FileSystem) (path : Path) : Except (Failure invalid exception) Config :=
  Except.mapError (·.locate path) do
    parse library (← entriesOf library (← readText files path))

end

/-- What is logged when a configuration has been loaded. -/
def loadedRecord (config : Config) (path : Path) : Log.Record :=
  ⟨.debug, "jdcheck.config.loader",
    s!"Loaded {path.toString} ({config.suppressions.length} suppressions)"⟩

end Config

end JavadocAudit

import JavadocAudit.CommandLine.Arguments
import JavadocAudit.FileCheck

/-!
# The command line

The program prints one line for each finding and one line for each file that cannot be read, and
writes records to its log. Its status tells whether something went wrong, else whether something was
found.
-/

namespace JavadocAudit.CommandLine

/-- What the program works with: its libraries and the files. -/
structure Environment (key data invalid exception : Type) where
  parser : Source.Parser
  library : Config.Library key data invalid exception
  files : FileSystem

/-- What is written to the errors: a line of the program, or a record of its log. -/
inductive Note where
  | line (text : String)
  | record (r : Log.Record)
  deriving DecidableEq, Repr

namespace Note

def line? : Note → Option String
  | line text => some text
  | record _ => none

def record? : Note → Option Log.Record
  | line _ => none
  | record r => some r

end Note

/-- What a run of the program leaves behind. -/
structure Outcome where
  status : Nat
  output : List String := []
  errors : List Note := []
  deriving DecidableEq, Repr

namespace Outcome

/-- The lines of the program among the errors. -/
def complaints (outcome : Outcome) : List String := outcome.errors.filterMap Note.line?

def records (outcome : Outcome) : List Log.Record := outcome.errors.filterMap Note.record?

/-- Two runs one after the other; the greater status counts. -/
def append (a b : Outcome) : Outcome :=
  ⟨max a.status b.status, a.output ++ b.output, a.errors ++ b.errors⟩

end Outcome

/-- Why a run breaks off. -/
inductive Crash (exception : Type) where
  /-- It is not known what stands at a path. -/
  | lookup (fault : SystemFault)
  | invalidPath
  /-- The configuration is not text. -/
  | notText (fault : Text.Utf8Fault)
  /-- A library raised something that it does not document. -/
  | raised (e : exception)

def programName : String := "jdcheck"

def versionText : String := programName ++ " 1.0.0"

/-- How the program is called. -/
def usage : List String :=
  [s!"usage: {programName} [-h] [-c CONFIG] [-j JOBS] [-v] [--version] paths [paths ...]"]

/-- The description of the program and its options. -/
def helpText : List String :=
  usage ++
    ["", "Check that Javadoc comments document method signatures.", "", "positional arguments:",
     "  paths                 Java files or directories", "", "options:",
     "  -h, --help            show this help message and exit",
     "  -c CONFIG, --config CONFIG",
     "                        YAML configuration file",
     "  -j JOBS, --jobs JOBS  Files checked in parallel (default 4)",
     "  -v, --verbose         Debug logging",
     "  --version             show program's version number and exit"]

/-- A line that says what went wrong. -/
def complaint (message : String) : String := programName ++ ": " ++ message

/-- What is done when the arguments do not ask for a check. -/
def stopped : Stop → Outcome
  | .help => { status := 0, output := helpText }
  | .version => { status := 0, output := [versionText] }
  | .refused fault =>
    { status := 2, errors := (usage ++ [complaint ("error: " ++ fault.message)]).map .line }

/-- A path and what is said about it. -/
def located (path : Path) (message : String) : String := path.toString ++ ": " ++ message

section

variable {exception : Type}

/-- What a file comes to, given the records that are shown while it is checked and what came out. -/
def tell (path : Path) (records : List Log.Record) :
    Except SourceFailure (List Diagnostic) → Except (Crash exception) Outcome
  | .error .invalidPath => .error .invalidPath
  | .error (.refused fault) =>
    .ok { status := 2
          errors := records.map .record ++ [.line (complaint (located path fault.message))] }
  | .ok findings =>
    .ok { status := if findings.isEmpty then 0 else 1
          output := FileCheck.reports path findings
          errors := records.map .record }

/-- Several outcomes one after the other. -/
def gather : List (Except (Crash exception) Outcome) → Except (Crash exception) Outcome
  | [] => return { status := 0 }
  | first :: others => return (← first).append (← gather others)

end

section

variable {key data invalid exception : Type} (env : Environment key data invalid exception)

section

variable (verbose : Bool) (config : Config) (path : Path)

/-- The records that are shown while a file is checked. -/
def recordsOf : List Log.Record :=
  Log.shown verbose (FileCheck.fileLog env.parser env.files config path)

/-- The findings in one file, or what is wrong with it. -/
def checkOne : Except (Crash exception) Outcome :=
  tell path (recordsOf env verbose config path)
    (FileCheck.checkFile env.parser env.files config path)

end

def checkAll (verbose : Bool) (config : Config) (paths : List Path) :
    Except (Crash exception) Outcome :=
  gather (paths.map (checkOne env verbose config))

def Request.load (request : Request) : Except (Config.Failure invalid exception) Config :=
  match request.config with
  | none => .ok {}
  | some name => Config.load env.library env.files (.ofString name)

def Request.loadRecords (request : Request) (config : Config) : List Log.Record :=
  match request.config with
  | none => []
  | some name => Log.shown request.verbose [config.loadedRecord (.ofString name)]

/-- What a run comes to that has no configuration. -/
def unconfigured : Config.Failure invalid exception → Except (Crash exception) Outcome
  | .refused refusal =>
    .ok { status := 2, errors := [.line (complaint (refusal.message env.library.describe))] }
  | .notText fault => .error (.notText fault)
  | .invalidPath => .error .invalidPath
  | .raised e => .error (.raised e)

/-- The check of all that a request names. -/
def perform (request : Request) : Except (Crash exception) Outcome :=
  match request.load env with
  | .error failure => unconfigured env failure
  | .ok config => do
    let paths ← (FileCheck.sources env.files request.paths).mapError .lookup
    let outcome ← checkAll env request.verbose config paths
    let loaded := (request.loadRecords config).map .record
    return { outcome with errors := loaded ++ outcome.errors }

def run (arguments : List String) : Except (Crash exception) Outcome :=
  match Request.ofArguments arguments with
  | .error stop => .ok (stopped stop)
  | .ok request => perform env request

end

end JavadocAudit.CommandLine

import JavadocAudit.Config.Basic
import JavadocAudit.Diagnostic.Message
import JavadocAudit.Source.File
import JavadocAudit.Verification

/-!
# Checking files

The files to be checked are those that are named, and the source files below the directories that
are named. A file is checked declaration by declaration, with the classes that it declares itself
known beside those of the configuration, and what the configuration silences is left out.
-/

namespace JavadocAudit

inductive SourceFault where
  | unreadable (path : Path) (fault : SystemFault)
  | notText (fault : Text.Utf8Fault)

def SourceFault.message (fault : SourceFault) : String :=
  "Cannot read source file: " ++
    match fault with
    | unreadable path fault => fault.message path
    | notText fault => fault.message

/-- Why there is no source text. -/
inductive SourceFailure where
  | refused (fault : SourceFault)
  | invalidPath

namespace FileCheck

/-- The order of paths: name by name, a path before all that are below it. -/
def before : List String → List String → Bool
  | [], _ => true
  | _ :: _, [] => false
  | a :: as, b :: bs => if a = b then before as bs else a < b

/-- The files to be checked for a path that is named. -/
def sourcesAt (files : FileSystem) (path : Path) : Except SystemFault (List Path) := do
  match ← files.folder? path with
  | none => return [path]
  | some children =>
    let names := (FileTree.descendantsOf children).filter fun parts =>
      parts.getLast?.any (·.endsWith ".java")
    return (names.mergeSort before).map path.append

/-- The files to be checked for the paths that are named, in their order. -/
def sources (files : FileSystem) : List String → Except SystemFault (List Path)
  | [] => return []
  | name :: names => return (← sourcesAt files (.ofString name)) ++ (← sources files names)

def readSource (files : FileSystem) (path : Path) : Except SourceFailure (List Char) :=
  match files.read path with
  | .error (.refused fault) => .error (.refused (.unreadable path fault))
  | .error .invalidPath => .error .invalidPath
  | .ok content =>
    match Text.decodeUtf8 content with
    | .error fault => .error (.refused (.notText fault))
    | .ok text => .ok (Text.unifyBreaks text)

def findings (settings : Settings) (file : Source.File) : List Diagnostic :=
  let resolver := (file.classTable settings.classTable).resolver
  file.declarations.flatMap fun declaration =>
    verify settings resolver declaration.signature declaration.comment

/-- What is logged while the declarations of a source file are verified. -/
def findingsLog (settings : Settings) (file : Source.File) : List Log.Record :=
  let resolver := (file.classTable settings.classTable).resolver
  file.declarations.flatMap fun declaration =>
    verifyLog settings resolver declaration.signature declaration.comment

section

variable (parser : Source.Parser) (config : Config) (path : Path) (text : List Char)

/-- The findings in a source text at a path that are not silenced. -/
def check : List Diagnostic :=
  (findings config.settings (.ofText parser text)).filter fun finding =>
    !Suppression.anySilences config.suppressions path.toString finding.kind

/-- What is logged while a source text is checked. -/
def checkLog : List Log.Record :=
  let errors : List Log.Record :=
    if (parser text).hasErrors then
      [⟨.warning, "jdcheck.java.adapter",
        path.toString ++ ": syntax errors, checking what could be parsed"⟩]
    else []
  errors ++ findingsLog config.settings (.ofText parser text) ++
    [⟨.debug, "jdcheck.cli",
      s!"{path.toString}: {(check parser config path text).length} problem(s)"⟩]

end

section

variable (parser : Source.Parser) (files : FileSystem) (config : Config) (path : Path)

/-- The findings in a file that are not silenced. -/
def checkFile : Except SourceFailure (List Diagnostic) :=
  (readSource files path).map (check parser config path)

/-- What is logged while a file is checked: nothing if it cannot be read. -/
def fileLog : List Log.Record :=
  match readSource files path with
  | .error _ => []
  | .ok text => checkLog parser config path text

end

/-- The line for each finding in a file. -/
def reports (path : Path) (findings : List Diagnostic) : List String :=
  findings.filterMap (·.report? path.toString)

end FileCheck

end JavadocAudit

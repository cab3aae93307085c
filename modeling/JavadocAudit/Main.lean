import JavadocAudit.CommandLine.Basic
import JavadocAudit.Config.Standard

/-!
# The program

Everything that the arguments name is read first; the rest is a matter of `CommandLine.run`.
-/

namespace JavadocAudit.Program

/-- What stands at a path. Only source files are read below a directory. -/
partial def load (path : String) : IO FileTree := do
  let place := (← IO.currentDir) / path
  if ← place.isDir then
    let mut children := []
    for entry in ← place.readDir do
      let name := entry.fileName
      let below := path ++ "/" ++ name
      let tree ←
        if name.endsWith ".java" || (← entry.path.isDir) then load below else pure (.file [])
      children := (name, tree) :: children
    return .folder children
  return .file (← IO.FS.readBinFile path).toList

/-- What stands at a path, or why nothing can be found there. -/
def find (path : Path) : IO (Except SystemFault FileTree) := do
  try
    return .ok (← load path.toString)
  catch
    | .noFileOrDirectory .. => return .error .missing
    | .permissionDenied .. => return .error .denied
    | _ => return .error .notDirectory

def named (arguments : List String) : List Path :=
  match CommandLine.Request.ofArguments arguments with
  | .ok request => (request.config.toList ++ request.paths).map .ofString
  | .error _ => []

/-- What is said when a run breaks off. -/
def crashText : CommandLine.Crash Config.Exception → String
  | .lookup fault => fault.reason
  | .invalidPath => "a path has a null character"
  | .notText fault => fault.message
  | .raised (.document _) => "a scalar of the configuration has no value"
  | .raised (.pattern _) => "a regular expression of the configuration cannot be used"

def write : CommandLine.Note → IO Unit
  | .line text => IO.eprintln text
  | .record r => do IO.eprintln (r.line (toString (← IO.monoMsNow)))

end JavadocAudit.Program

open JavadocAudit in
/-- Runs the program. -/
def main (arguments : List String) : IO UInt32 := do
  let found ← (Program.named arguments).mapM fun path => do return (path, ← Program.find path)
  match CommandLine.run ⟨.strict, .standard, .ofFound found⟩ arguments with
  | .ok outcome =>
    for line in outcome.output do IO.println line
    for note in outcome.errors do Program.write note
    return UInt32.ofNat outcome.status
  | .error crash =>
    IO.eprintln (CommandLine.complaint (Program.crashText crash))
    return 1

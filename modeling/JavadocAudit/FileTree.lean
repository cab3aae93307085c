import JavadocAudit.Path
import JavadocAudit.Text.Quoted

/-!
# Files and directories

A directory is a tree of named files and directories. A file system tells what stands at a path, or
why nothing can be found there. A tree is the file system of someone who works at its root.
-/

namespace JavadocAudit

/-- A file with its content, or a directory with what it contains. -/
inductive FileTree where
  | file (content : List UInt8)
  | folder (children : List (String × FileTree))

structure SystemFault where
  number : Nat
  reason : String
  deriving DecidableEq, Repr

namespace SystemFault

def missing : SystemFault := ⟨2, "No such file or directory"⟩
def denied : SystemFault := ⟨13, "Permission denied"⟩
def notDirectory : SystemFault := ⟨20, "Not a directory"⟩
def isDirectory : SystemFault := ⟨21, "Is a directory"⟩
def nameTooLong : SystemFault := ⟨36, "File name too long"⟩

def message (fault : SystemFault) (path : Path) : String :=
  s!"[Errno {fault.number}] {fault.reason}: " ++ Text.quoted path.toString

/-- Whether the path leads nowhere: something on it is missing, no longer open or no directory, or
it leads in a circle. Other faults leave open what stands there. -/
def leadsNowhere (fault : SystemFault) : Bool := [2, 9, 20, 40].contains fault.number

end SystemFault

/-- Why there is no access to what stands at a path. -/
inductive AccessFault where
  | refused (fault : SystemFault)
  /-- The path has a null character, and the system is not even asked. -/
  | invalidPath
  deriving DecidableEq, Repr

structure FileSystem where
  /-- What stands at a path. -/
  find : Path → Except AccessFault FileTree
  /-- Why a file that stands at a path is not opened, if it is not. -/
  locked : Path → Option SystemFault := fun _ => none

namespace FileSystem

/-- What a directory contains; `none` if something else or nothing stands at the path. -/
def folder? (files : FileSystem) (path : Path) :
    Except SystemFault (Option (List (String × FileTree))) :=
  match files.find path with
  | .ok (.folder children) => .ok (some children)
  | .ok (.file _) => .ok none
  | .error .invalidPath => .ok none
  | .error (.refused fault) => if fault.leadsNowhere then .ok none else .error fault

def read (files : FileSystem) (path : Path) : Except AccessFault (List UInt8) :=
  match files.find path with
  | .error fault => .error fault
  | .ok (.folder _) => .error (.refused .isDirectory)
  | .ok (.file content) =>
    match files.locked path with
    | some fault => .error (.refused fault)
    | none => .ok content

theorem read_eq_invalidPath_iff {files : FileSystem} {path : Path} :
    files.read path = .error .invalidPath ↔ files.find path = .error .invalidPath := by
  unfold read
  rcases files.find path with fault | (content | children)
  · simp
  · cases files.locked path <;> simp
  · simp

end FileSystem

namespace FileTree

mutual

/-- The paths of everything strictly below a directory. -/
def descendants : FileTree → List (List String)
  | file _ => []
  | folder children => descendantsOf children

/-- The paths of named files and directories and of everything below them. -/
def descendantsOf : List (String × FileTree) → List (List String)
  | [] => []
  | (name, tree) :: rest => [name] :: tree.descendants.map (name :: ·) ++ descendantsOf rest

end

/-- Puts a tree under a name that is new or replaces what has the name. -/
def put (children : List (String × FileTree)) (name : String) (tree : FileTree) :
    List (String × FileTree) :=
  match children with
  | [] => [(name, tree)]
  | (n, t) :: rest => if n = name then (name, tree) :: rest else (n, t) :: put rest name tree

/-- Adds a file or an empty directory at a path, with the directories that lead to it. -/
def insert : List String → Option (List UInt8) → FileTree → FileTree
  | [], none, folder children => folder children
  | [], none, _ => folder []
  | [], some content, _ => file content
  | name :: rest, content, tree =>
    let children := match tree with
      | folder children => children
      | file _ => []
    folder (put children name (insert rest content ((children.lookup name).getD (folder []))))

/-- Why a name is not found in a directory. A name has at most 255 bytes. -/
def missingFault (name : String) : SystemFault :=
  if 255 < name.utf8ByteSize then .nameTooLong else .missing

/-- What stands at the end of a path that starts at a directory, given the directories above it. -/
def walk : List FileTree → FileTree → List String → Except SystemFault FileTree
  | _, tree, [] => .ok tree
  | above, tree, name :: rest =>
    match tree with
    | file _ => .error .notDirectory
    | folder children =>
      if name = ".." then
        match above with
        | [] => walk [] tree rest
        | parent :: others => walk others parent rest
      else
        match children.lookup name with
        | none => .error (missingFault name)
        | some child => walk (tree :: above) child rest

/-- The file system of someone who works at the root of a tree and sees nothing else. -/
def fileSystem (tree : FileTree) : FileSystem where
  find path :=
    match if path.root = "" then walk [] tree path.parts else .error .missing with
    | .ok found => .ok found
    | .error fault => .error (if path.hasNull then .invalidPath else .refused fault)

end FileTree

/-- What was found at some paths, as a file system that has these paths and what is below them. -/
def FileSystem.ofFound (found : List (Path × Except SystemFault FileTree)) : FileSystem where
  find path :=
    let below := found.filterMap fun (start, outcome) =>
      if start.root = path.root && start.parts.isPrefixOf path.parts then
        some (outcome.bind fun tree => FileTree.walk [] tree (path.parts.drop start.parts.length))
      else none
    (below.head?.getD (.error .missing)).mapError .refused

end JavadocAudit

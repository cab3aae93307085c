import JavadocAudit.Text.Digit
import JavadocAudit.Text.Integer
import JavadocAudit.Text.Quoted

/-!
# Arguments of the command line

An argument that starts with a hyphen is an option, unless it is a negative number, has a blank in
it, or stands behind `--`. Options can be abbreviated as long as it is clear which one is meant, and
letters can be written behind one hyphen. The paths have to be given in one row.
-/

namespace JavadocAudit.CommandLine

/-- What an option does. -/
inductive Action where
  | help
  | config
  | jobs
  | verbose
  | version
  deriving DecidableEq, Repr

namespace Action

/-- All options. -/
def all : List Action := [help, config, jobs, verbose, version]

/-- The spellings of an option. -/
def names : Action → List String
  | help => ["-h", "--help"]
  | config => ["-c", "--config"]
  | jobs => ["-j", "--jobs"]
  | verbose => ["-v", "--verbose"]
  | version => ["--version"]

/-- The option is followed by an argument. -/
def takesArgument : Action → Bool
  | config | jobs => true
  | _ => false

def spellings : List (String × Action) := all.flatMap fun action => action.names.map (·, action)

end Action

inductive Fault where
  | ambiguous (option : String) (candidates : List String)
  | expectsArgument (action : Action)
  | ignoredArgument (action : Action) (text : String)
  | notNumber (text : String)
  | missingPaths
  | unrecognized (arguments : List String)
  deriving DecidableEq, Repr

def Fault.message : Fault → String
  | ambiguous option candidates =>
    "ambiguous option: " ++ option ++ " could match " ++ String.intercalate ", " candidates
  | expectsArgument action => about action ++ "expected one argument"
  | ignoredArgument action text => about action ++ "ignored explicit argument " ++ Text.quoted text
  | notNumber text => about .jobs ++ "invalid int value: " ++ Text.quoted text
  | missingPaths => "the following arguments are required: paths"
  | unrecognized arguments => "unrecognized arguments: " ++ String.intercalate " " arguments
where
  about (action : Action) : String := "argument " ++ String.intercalate "/" action.names ++ ": "

/-- What the arguments ask for. -/
structure Request where
  paths : List String := []
  config : Option String := none
  jobs : Int := 4
  verbose : Bool := false
  deriving DecidableEq, Repr

/-- What ends the reading of arguments early. -/
inductive Stop where
  | help
  | version
  | refused (fault : Fault)
  deriving DecidableEq, Repr

inductive Word where
  | plain
  /-- The mark behind which there are no options. -/
  | separator
  /-- An option, if it is known, with its spelling and what is attached to it, an equals sign
  included. -/
  | option (action : Option Action) (name : String) (attached : Option String)
  deriving DecidableEq, Repr

namespace Word

def isNegativeNumber (s : String) : Bool :=
  let cs := match s.toList.getLast? with
    | some '\n' => s.toList.dropLast
    | _ => s.toList
  match cs with
  | '-' :: rest =>
    (!rest.isEmpty && rest.all Text.isDigit)
      || (match rest.dropWhile Text.isDigit with
        | '.' :: fraction => !fraction.isEmpty && fraction.all Text.isDigit
        | _ => false)
  | _ => false

/-- A text before its first equals sign, and the rest if there is one. -/
def splitAtEquals (s : String) : String × Option String :=
  let rest := s.toList.dropWhile (· ≠ '=')
  (String.ofList (s.toList.takeWhile (· ≠ '=')),
    if rest.isEmpty then none else some (String.ofList rest))

/-- The options that an argument can abbreviate, or whose letter starts it. -/
def candidates (s : String) : List (Action × String × Option String) :=
  if s.startsWith "--" then
    let (start, attached) := splitAtEquals s
    Action.spellings.filterMap fun (name, action) =>
      if name.startsWith start then some (action, name, attached) else none
  else
    let letter := String.ofList (s.toList.take 2)
    Action.spellings.filterMap fun (name, action) =>
      if name = letter then some (action, name, some (String.ofList (s.toList.drop 2)))
      else if name.startsWith s then some (action, name, none)
      else none

/-- What an argument is that stands before any separator. -/
def ofArgument (s : String) : Except Fault Word :=
  let (start, attached) := splitAtEquals s
  if !s.startsWith "-" then return plain
  else if let some action := Action.spellings.lookup s then return option (some action) s none
  else if s = "-" then return plain
  else if let (some action, some attached) := (Action.spellings.lookup start, attached) then
    return option (some action) start (some attached)
  else
    match candidates s with
    | [(action, name, attached)] => return option (some action) name attached
    | [] =>
      if isNegativeNumber s || s.toList.contains ' ' then return plain
      else return option none s none
    | several => throw (.ambiguous s (several.map (·.2.1)))

def ofArguments : List String → Except Fault (List (String × Word))
  | [] => return []
  | "--" :: rest => return ("--", separator) :: rest.map (·, plain)
  | s :: rest => do return (s, ← ofArgument s) :: (← ofArguments rest)

def isOption : Word → Bool
  | option .. => true
  | _ => false

end Word

structure Reading where
  request : Request := {}
  hasPaths : Bool := false
  /-- Arguments that have no place. -/
  extras : List String := []
  deriving DecidableEq

namespace Reading

/-- Does what an option says. -/
def perform (request : Request) : Action → Option String → Except Stop Request
  | .help, _ => throw .help
  | .version, _ => throw .version
  | .verbose, _ => return { request with verbose := true }
  | .config, text => return { request with config := text }
  | .jobs, text =>
    match Text.integer? (text.getD "").toList with
    | some jobs => return { request with jobs }
    | none => throw (.refused (.notNumber (text.getD "")))

/-- The options that one argument stands for, each with its text, and what is left of it. -/
abbrev Options := List (Action × Option String) × List String

/-- The text that is attached to an option, without the equals sign. -/
def attachedText : List Char → String
  | '=' :: rest => String.ofList rest
  | cs => String.ofList cs

/-- The options in an option and the letters that are attached to it. Letters can follow one hyphen
as long as they take no argument; the first letter that is no option ends the row. -/
def letters (isLetter : Bool) (action : Action) : List Char → Except Fault Options
  | [] => return ([(action, none)], [])
  | c :: rest =>
    let text := attachedText (c :: rest)
    if action.takesArgument then return ([(action, some text)], [])
    else if !isLetter || c = '=' || c = '-' then throw (.ignoredArgument action text)
    else
      match Action.spellings.lookup (String.ofList ['-', c]) with
      | none => return ([(action, none)], ["-" ++ text])
      | some follower => do
        let (options, left) ← letters true follower rest
        return ((action, none) :: options, left)

def optionsIn (action : Action) (name : String) (attached : Option String) : Except Fault Options :=
  letters (!name.startsWith "--") action (attached.getD "").toList

/-- Gives the last option its argument from the arguments that follow, if it needs one. -/
def complete (options : List (Action × Option String)) (rest : List (String × Word)) :
    Except Fault (List (Action × Option String) × List (String × Word)) :=
  match options.getLast? with
  | some (action, none) =>
    if action.takesArgument then
      match rest with
      | (s, .plain) :: rest => return (options.dropLast ++ [(action, some s)], rest)
      | _ => throw (.expectsArgument action)
    else return (options, rest)
  | _ => return (options, rest)

/-- Takes a row of arguments that are no options: the first row with a path in it holds the paths.
-/
def takeRow (reading : Reading) (row : List (String × Word)) : Reading :=
  let texts := row.map (·.1)
  if !reading.hasPaths && row.any (·.2 = .plain) then
    { reading with
      hasPaths := true
      request := { reading.request with paths := texts.erase "--" } }
  else { reading with extras := reading.extras ++ texts }

/-- A fault as the end of reading. -/
def orRefuse {α : Type} : Except Fault α → Except Stop α
  | .ok a => .ok a
  | .error fault => .error (.refused fault)

def run : Nat → Reading → List (String × Word) → Except Stop Reading
  | 0, reading, _ => return reading
  | _, reading, [] => return reading
  | fuel + 1, reading, (s, word) :: rest =>
    match word with
    | .option none _ _ => run fuel { reading with extras := reading.extras ++ [s] } rest
    | .option (some action) name attached => do
      let (options, left) ← orRefuse (optionsIn action name attached)
      let (options, rest) ← orRefuse (complete options rest)
      let request ← options.foldlM (fun request (action, text) => perform request action text)
        reading.request
      run fuel { reading with request, extras := reading.extras ++ left } rest
    | _ =>
      let others := (s, word) :: rest
      run fuel (reading.takeRow (others.takeWhile (!·.2.isOption)))
        (others.dropWhile (!·.2.isOption))

end Reading

def Request.ofArguments (arguments : List String) : Except Stop Request := do
  let words ← Reading.orRefuse (Word.ofArguments arguments)
  let reading ← Reading.run words.length {} words
  if !reading.hasPaths then throw (.refused .missingPaths)
  if !reading.extras.isEmpty then throw (.refused (.unrecognized reading.extras))
  return reading.request

end JavadocAudit.CommandLine

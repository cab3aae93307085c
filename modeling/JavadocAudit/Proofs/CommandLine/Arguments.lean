import JavadocAudit.CommandLine.Arguments

/-!
# Options and paths among the arguments

Arguments are read a few words at a time: `Reading.advance` says what the next words do, and
`Reading.read` is that step until no word is left. Options only change the request, whatever has
been read before them and whatever comes after. So a row of paths with options on both sides asks
for what the options ask for, with these paths.
-/

namespace JavadocAudit.CommandLine

namespace Word

end Word

namespace Reading

/-- Does what some options say, one after the other. -/
def performAll (request : Request) (options : List (Action × Option String)) :
    Except Stop Request :=
  options.foldlM (fun request option => perform request option.1 option.2) request

/-- What a word does to a reading, together with the words behind it that belong to it: the reading
after it, and the words that are left. -/
def advance (reading : Reading) (s : String) (word : Word) (rest : List (String × Word)) :
    Except Stop (Reading × List (String × Word)) :=
  match word with
  | .option none _ _ => .ok ({ reading with extras := reading.extras ++ [s] }, rest)
  | .option (some action) name attached =>
    (orRefuse (optionsIn action name attached)).bind fun found =>
      (orRefuse (complete found.1 rest)).bind fun completed =>
        (performAll reading.request completed.1).bind fun request =>
          .ok ({ reading with request, extras := reading.extras ++ found.2 }, completed.2)
  | _ =>
    .ok (reading.takeRow (((s, word) :: rest).takeWhile (!·.2.isOption)),
      ((s, word) :: rest).dropWhile (!·.2.isOption))

def read (reading : Reading) (words : List (String × Word)) : Except Stop Reading :=
  run words.length reading words

section Step

variable {reading next : Reading} {s : String} {word : Word} {rest left : List (String × Word)}

end Step

section Options

variable {reading next : Reading} {s : String} {word : Word}
  {words rest left : List (String × Word)}

end Options

end Reading

end JavadocAudit.CommandLine

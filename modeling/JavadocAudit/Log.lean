/-!
# The log

The program writes records to a log while it runs. Warnings are always shown, and the other records
only on demand.
-/

namespace JavadocAudit

namespace Log

inductive Level where
  | debug
  | warning
  deriving DecidableEq, Repr

def Level.name : Level → String
  | debug => "DEBUG"
  | warning => "WARNING"

structure Record where
  level : Level
  /-- The part of the program that writes the record. -/
  logger : String
  message : String
  deriving DecidableEq, Repr

def Record.line (record : Record) (time : String) : String :=
  time ++ " " ++ record.level.name ++ " " ++ record.logger ++ ": " ++ record.message

def shown (verbose : Bool) (records : List Record) : List Record :=
  records.filter fun record => verbose || record.level = .warning

end Log

end JavadocAudit

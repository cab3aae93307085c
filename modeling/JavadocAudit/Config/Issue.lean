import JavadocAudit.Config.Value
import JavadocAudit.Pattern.Basic

/-!
# What is wrong with configured values

Every value that breaks a rule is reported with the path that leads to it and the rule it breaks.
-/

namespace JavadocAudit.Config

/-- The rules for configured values. -/
inductive Issue.Rule where
  | boolType
  | boolParsing
  | intType
  | intParsing
  | intParsingSize
  | intFromFloat
  | finiteNumber
  | stringType
  | stringUnicode
  | tupleType
  | dictType
  | literalError
  | patternType
  | patternTextType
  | patternRegex
  | valueError
  | enum
  | missing
  | modelType
  | extraForbidden
  | invalidKey
  deriving DecidableEq, Repr

def Issue.Rule.name : Issue.Rule → String
  | boolType => "bool_type"
  | boolParsing => "bool_parsing"
  | intType => "int_type"
  | intParsing => "int_parsing"
  | intParsingSize => "int_parsing_size"
  | intFromFloat => "int_from_float"
  | finiteNumber => "finite_number"
  | stringType => "string_type"
  | stringUnicode => "string_unicode"
  | tupleType => "tuple_type"
  | dictType => "dict_type"
  | literalError => "literal_error"
  | patternType => "pattern_type"
  | patternTextType => "pattern_str_type"
  | patternRegex => "pattern_regex"
  | valueError => "value_error"
  | enum => "enum"
  | missing => "missing"
  | modelType => "model_type"
  | extraForbidden => "extra_forbidden"
  | invalidKey => "invalid_key"

/-- A step on the way to a value. -/
inductive Issue.Step where
  | name (s : String)
  | index (n : Int)
  deriving DecidableEq, Repr

/-- A value that breaks a rule. -/
structure Issue where
  path : List Issue.Step
  rule : Issue.Rule
  deriving DecidableEq, Repr

namespace Issue

/-- The step to the value of a key. Keys that are numbers of 64 bits are shown as numbers. -/
def Step.ofKey : Scalar → Step
  | .text s => .name s
  | .bool b => .index b.toNat
  | .int n =>
    if -0x8000000000000000 ≤ n && n < 0x8000000000000000 then .index n else .name (toString n)
  | key => .name key.display

/-- An issue with the value itself. -/
def here (rule : Rule) : Issue := ⟨[], rule⟩

/-- The issue seen from one step further out. -/
def below (step : Step) (issue : Issue) : Issue := ⟨step :: issue.path, issue.rule⟩

end Issue

/-- Why values cannot be used. -/
inductive DecodeFault where
  | issues (all : List Issue)
  /-- A regular expression that is not refused and still cannot be had. -/
  | raised (fault : Pattern.Fault)
  deriving DecidableEq, Repr

namespace DecodeFault

/-- A fault of a single value. -/
def one (rule : Issue.Rule) : DecodeFault := .issues [.here rule]

def below (step : Issue.Step) : DecodeFault → DecodeFault
  | issues all => issues (all.map (·.below step))
  | raised fault => raised fault

end DecodeFault

abbrev Decoded (α : Type) := Except DecodeFault α

namespace Decoded

variable {α β : Type}

/-- A value that breaks a rule. -/
def broken (rule : Issue.Rule) : Decoded α := .error (.one rule)

/-- The outcome seen from one step further out. -/
def below (step : Issue.Step) : Decoded α → Decoded α
  | .ok a => .ok a
  | .error fault => .error (fault.below step)

/-- Both outcomes together; the issues of both are kept. -/
def both (first : Decoded α) (second : Decoded β) : Decoded (α × β) :=
  match first, second with
  | .ok a, .ok b => .ok (a, b)
  | .error (.issues xs), .error (.issues ys) => .error (.issues (xs ++ ys))
  | .error (.raised fault), _ => .error (.raised fault)
  | _, .error (.raised fault) => .error (.raised fault)
  | .error fault, .ok _ => .error fault
  | .ok _, .error fault => .error fault

/-- All outcomes together; all faults are kept. -/
def all : List (Decoded α) → Decoded (List α)
  | [] => .ok []
  | first :: rest => (first.both (all rest)).map fun (a, as) => a :: as

end Decoded

end JavadocAudit.Config

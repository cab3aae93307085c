import JavadocAudit.Config.Issue
import JavadocAudit.Settings
import JavadocAudit.Suppression
import JavadocAudit.Text.Blank

/-!
# Settings and suppressions from configured values

Values are read leniently where their meaning is plain: a switch may be a word or a digit, a number
may be written as text. Every option has two spellings, and unknown keys are refused. All faults
are reported together.
-/

namespace JavadocAudit.Config

open Decoded

namespace Read

/-- A text without white space around it. -/
def trimSpace (cs : List Char) : List Char :=
  ((cs.dropWhile Text.isSpace).reverse.dropWhile Text.isSpace).reverse

def onWords : List String := ["1", "true", "t", "yes", "y", "on"]

def offWords : List String := ["0", "false", "f", "no", "n", "off"]

def switchWord (s : String) : Decoded Bool :=
  let word := s.map Char.toLower
  if onWords.contains word then .ok true
  else if offWords.contains word then .ok false
  else broken .boolParsing

def switchNumber (n : Int) : Decoded Bool :=
  if n = 0 then .ok false else if n = 1 then .ok true else broken .boolParsing

/-- The text of a value that is text, or bytes of text. -/
def text? : Scalar → Option (Except Text.Utf8Fault String)
  | .text s => some (.ok s)
  | .bytes data => some ((Text.decodeUtf8 data).map String.ofList)
  | _ => none

/-- A number with a sign that fits into 64 bits. -/
def isWordSized (n : Int) : Bool := -0x8000000000000000 ≤ n && n < 0x8000000000000000

def switch (value : Value) : Decoded Bool :=
  match value with
  | .scalar (.bool b) => .ok b
  | .scalar (.int n) => switchNumber n
  | .scalar (.float x) =>
    match x.toInt? with
    | some n => if isWordSized n then switchNumber n else broken .boolType
    | none => broken .boolType
  | .scalar s =>
    match text? s with
    | some (.ok word) => switchWord word
    | some (.error _) => broken .boolParsing
    | none => broken .boolType
  | _ => broken .boolType

/-- ASCII digits with single underscores between them. -/
def digits? : List Char → Option (List Nat)
  | [] => none
  | [c] => if c.isDigit then some [c.toNat - 48] else none
  | c :: '_' :: rest => if c.isDigit then (digits? rest).map ((c.toNat - 48) :: ·) else none
  | c :: rest => if c.isDigit then (digits? rest).map ((c.toNat - 48) :: ·) else none

/-- A whole number in text: a sign, digits, and possibly a decimal point with zeros. -/
def numberText (s : String) : Decoded Int :=
  let (negative, body) := match trimSpace s.toList with
    | '-' :: rest => (true, rest)
    | '+' :: rest => (false, rest)
    | rest => (false, rest)
  let whole := body.takeWhile (· ≠ '.')
  if !(body.dropWhile (· ≠ '.')).tail.all (· = '0') then broken .intParsing
  else
    match digits? whole with
    | none => broken .intParsing
    | some digits =>
      if 4300 < digits.length then broken .intParsingSize
      else
        let n : Int := (digits.foldl (10 * · + ·) 0 : Nat)
        .ok (if negative then -n else n)

def number (value : Value) : Decoded Int :=
  match value with
  | .scalar (.bool b) => .ok b.toNat
  | .scalar (.int n) => .ok n
  | .scalar (.float x) =>
    match x with
    | .finite .. =>
      match x.toInt? with
      | some n => if isWordSized n then .ok n else broken .intParsingSize
      | none => broken .intFromFloat
    | _ => broken .finiteNumber
  | .scalar s =>
    match text? s with
    | some (.ok digits) => numberText digits
    | some (.error _) => broken .intParsing
    | none => broken .intType
  | _ => broken .intType

def text (value : Value) : Decoded String :=
  match value with
  | .scalar s =>
    match text? s with
    | some (.ok t) => .ok t
    | some (.error _) => broken .stringUnicode
    | none => broken .stringType
  | _ => broken .stringType

/-- A value that may be left open. -/
def optional {α : Type} (read : Value → Decoded α) (value : Value) : Decoded (Option α) :=
  match value with
  | .scalar .null => .ok none
  | value => (read value).map some

/-- A regular expression. -/
def pattern (value : Value) : Decoded Pattern :=
  match value with
  | .scalar (.text s) =>
    match Pattern.ofString s with
    | .ok pattern => .ok pattern
    | .error .malformed => broken .patternRegex
    | .error .conflictingModes => broken .valueError
    | .error fault => .error (.raised fault)
  | .scalar (.bytes _) => broken .patternTextType
  | _ => broken .patternType

def visibility (value : Value) : Decoded Visibility :=
  match value with
  | .scalar (.text s) =>
    match Visibility.ofName? s with
    | some v => .ok v
    | none => broken .literalError
  | _ => broken .literalError

def kind (value : Value) : Decoded Diagnostic.Kind :=
  match value with
  | .scalar (.text s) =>
    match Diagnostic.Kind.ofName? s with
    | some k => .ok k
    | none => broken .enum
  | _ => broken .enum

/-- Items, each read at its place. -/
def items {α : Type} (read : Value → Decoded α) (values : List Value) : Decoded (List α) :=
  Decoded.all (values.zipIdx.map fun (value, index) => (read value).below (.index index))

def list {α : Type} (read : Value → Decoded α) (value : Value) : Decoded (List α) :=
  match value with
  | .list values => items read values
  | .set members => items read (members.map .scalar)
  | .recurrence false => items read [value]
  | _ => broken .tupleType

/-- Superclasses by class name. -/
def hierarchy (value : Value) : Decoded (Dict String (Option String)) :=
  match value with
  | .map entries =>
    (Decoded.all (entries.map fun (key, value) =>
      let step := Issue.Step.ofKey key
      (((text (.scalar key)).below (.name "[key]")).below step).both
        ((optional text value).below step))).map Dict.ofList
  | _ => broken .dictType

end Read

/-- An option with its two spellings and its effect on the settings. -/
structure Field where
  name : String
  property : String
  apply : Value → Decoded (Settings → Settings)

namespace Field

/-- The option whose value is read in one way and stored in one place. -/
def of {α : Type} (name property : String) (read : Value → Decoded α)
    (store : α → Settings → Settings) : Field :=
  ⟨name, property, fun value => (read value).map store⟩

/-- All options. -/
def all : List Field :=
  [.of "allow_narrative_param_tags" "allowNarrativeParamTags" Read.switch
     fun b s => { s with allowNarrativeParams := b },
   .of "allow_narrative_return_tags" "allowNarrativeReturnTags" Read.switch
     fun b s => { s with allowNarrativeReturn := b },
   .of "unused_param_format" "unusedParamFormat" (Read.optional Read.pattern)
     fun p s => { s with unusedParams := p },
   .of "ignore_method_names_regex" "ignoreMethodNamesRegex" (Read.optional Read.pattern)
     fun p s => { s with ignoredMethods := p },
   .of "allow_missing_param_tags" "allowMissingParamTags" Read.switch
     fun b s => { s with allowMissingParams := b },
   .of "allow_missing_return_tag" "allowMissingReturnTag" Read.switch
     fun b s => { s with allowMissingReturn := b },
   .of "allow_missing_throws_tags" "allowMissingThrowsTags" Read.switch
     fun b s => { s with allowMissingThrows := b },
   .of "allow_undeclared_rte" "allowUndeclaredRTE" Read.switch
     fun b s => { s with allowUndeclaredUnchecked := b },
   .of "allow_missing_javadoc" "allowMissingJavadoc" Read.switch
     fun b s => { s with allowMissingComment := b },
   .of "min_line_count" "minLineCount" Read.number
     fun n s => { s with minLineCount := n },
   .of "allowed_annotations" "allowedAnnotations" (Read.list Read.text)
     fun names s => { s with allowedAnnotations := names },
   .of "scope" "scope" Read.visibility
     fun v s => { s with scope := v },
   .of "exclude_scope" "excludeScope" (Read.optional Read.visibility)
     fun v s => { s with excludeScope := v },
   .of "exception_hierarchy" "exceptionHierarchy" Read.hierarchy
     fun classes s => { s with exceptionHierarchy := classes }]

/-- The key under which an option is given: its property name counts before its plain name. -/
def keyIn (field : Field) (entries : List (Scalar × Value)) : Option String :=
  if (Value.entry? entries field.property).isSome then some field.property
  else if (Value.entry? entries field.name).isSome then some field.name
  else none

/-- The effect of an option, if it is given. -/
def effect (entries : List (Scalar × Value)) (field : Field) : Decoded (Settings → Settings) :=
  match field.keyIn entries with
  | none => .ok id
  | some key =>
    match Value.entry? entries key with
    | none => .ok id
    | some value => (field.apply value).below (.name key)

end Field

/-- The keys that no option or field uses. -/
def unknownKeys (used : List String) (entries : List (Scalar × Value)) : Decoded Unit :=
  let refused := entries.filterMap fun (key, _) =>
    match key with
    | .text name => if used.contains name then none else some ⟨[.name name], .extraForbidden⟩
    | key => some ⟨[.ofKey key], .invalidKey⟩
  if refused.isEmpty then .ok () else .error (.issues refused)

def decodeSettings (entries : List (Scalar × Value)) : Decoded Settings :=
  let used := Field.all.filterMap (·.keyIn entries)
  ((Decoded.all (Field.all.map (·.effect entries))).both (unknownKeys used entries)).map
    fun (effects, _) => effects.foldl (fun settings effect => effect settings) {}

def decodeSuppression (value : Value) : Decoded Suppression :=
  match value with
  | .map entries =>
    let files : Decoded String :=
      (match Value.entry? entries "files" with
      | some files => Read.text files
      | none => broken .missing).below (.name "files")
    let kinds : Decoded (List Diagnostic.Kind) :=
      (match Value.entry? entries "kinds" with
      | some kinds => Read.list Read.kind kinds
      | none => .ok []).below (.name "kinds")
    ((files.both kinds).both (unknownKeys ["files", "kinds"] entries)).map
      fun ((files, kinds), _) => ⟨files, kinds⟩
  | _ => broken .modelType

end JavadocAudit.Config

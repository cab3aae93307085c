import JavadocAudit.Diagnostic.Basic
import JavadocAudit.Log
import JavadocAudit.Narrative
import JavadocAudit.Settings
import JavadocAudit.Tag.Extraction
import JavadocAudit.ThrowsMatch

/-!
# Verifying a comment against a declaration

The tags of a comment are settled against the parameters, the result and the exceptions of a
declaration, in this order. Each step reports what is missing and which of its tags were of no use;
tags that no step is concerned with are reported at the end. A comment whose only tag takes over
inherited text is not looked at any further.
-/

namespace JavadocAudit

namespace Tag

/-- The report on a tag that nothing in the declaration calls for. -/
def unused (tag : Tag) : Diagnostic :=
  ⟨.unusedTag, tag.position, ("@" ++ tag.name) :: tag.argument.toList⟩

def describes (tag : Tag) (parameter : Parameter) : Bool :=
  tag.argument == some parameter.tagName

end Tag

namespace Verification

/-- What a comment does about a parameter. -/
inductive Treatment where
  /-- A tag describes it. -/
  | tagged
  /-- Running text mentions it. -/
  | narrated
  | missing
  deriving DecidableEq, Repr

/-- A given line or column, or that of the declaration; zero stands for none. -/
def orElse (given : Option Int) (fallback : Int) : Int :=
  match given with
  | some n => if n = 0 then fallback else n
  | none => fallback

/-- The treatment of each parameter, and the tags that describe none. Every parameter takes the
first tag for its name that no parameter before it has taken. -/
def settleParams (isNarrated : Parameter → Bool) :
    List Parameter → List Tag → List (Parameter × Treatment) × List Tag
  | [], tags => ([], tags)
  | p :: rest, tags =>
    if tags.any (·.describes p) then
      let (settled, left) := settleParams isNarrated rest (tags.eraseP (·.describes p))
      ((p, .tagged) :: settled, left)
    else
      let (settled, left) := settleParams isNarrated rest tags
      ((p, if isNarrated p then .narrated else .missing) :: settled, left)

section

variable (settings : Settings) (signature : Signature) (comment : Comment)

def documentedParams : List Parameter :=
  (signature.parameters ++ signature.typeParameters).filter (!settings.isUnusedParam ·.name)

/-- The tags that may describe them. -/
def paramTags : List Tag :=
  comment.tags.filter fun tag =>
    tag.kind = .param && !tag.argument.any settings.isUnusedParam

def isInherited : Bool := comment.tags.any (·.kind = .inheritDoc)

/-- Running text that is allowed to describe a parameter does so. -/
def isNarrated (parameter : Parameter) : Bool :=
  settings.allowNarrativeParams &&
    (comment.mentioned (documentedParams settings signature)).contains parameter.tagName

/-- The treatment of the parameters, and the tags that describe none. -/
def settledParams : List (Parameter × Treatment) × List Tag :=
  settleParams (isNarrated settings signature comment) (documentedParams settings signature)
    (paramTags settings comment)

/-- The report on a parameter that is not described. -/
def expectedParam (parameter : Parameter) : Diagnostic :=
  ⟨.expectedParam,
    ⟨orElse parameter.line signature.position.line,
      orElse parameter.column signature.position.column⟩,
    ["@param", parameter.tagName]⟩

def missingParams : List Diagnostic :=
  if settings.allowMissingParams || isInherited comment then []
  else
    ((settledParams settings signature comment).1.filter (·.2 = .missing)).map
      fun settled => expectedParam signature settled.1

/-- Tags and running text describe parameters side by side. -/
def mixedStyle : List Diagnostic :=
  let settled := (settledParams settings signature comment).1
  if settled.any (·.2 = .tagged) && settled.any (·.2 = .narrated) then
    [⟨.mixedStyle, comment.start, []⟩]
  else []

def unusedParams : List Diagnostic :=
  (settledParams settings signature comment).2.map Tag.unused

def resultTags : List Tag := comment.tags.filter (·.kind = .result)

/-- All tags for a result but the first, or the lack of any. A declaration without a result has no
use for them at all, and leaves them to the end. -/
def resultReport : List Diagnostic :=
  if !signature.returnsValue then []
  else
    match resultTags comment with
    | _ :: duplicates => duplicates.map fun tag => ⟨.duplicateTag, tag.position, ["@return"]⟩
    | [] =>
      if settings.allowMissingReturn || isInherited comment
          || (settings.allowNarrativeReturn && comment.mentionsReturn) then []
      else [⟨.expectedReturn, signature.position, []⟩]

/-- Tags that no parameter, result or exception is concerned with: those that name nothing, and
those for a result that there is not. -/
def strayTags : List Diagnostic :=
  (comment.tags.filter fun tag =>
    tag.kind = .nameless || (tag.kind = .result && !signature.returnsValue)).map Tag.unused

end

section

variable {α : Type} (resolver : Resolver α)

/-- The exceptions of a declaration, none of them found yet. -/
def declaredExceptions (signature : Signature) : List (Declared α) :=
  signature.exceptions.map fun thrown =>
    { name := thrown.name
      resolved := resolver.resolveQuietly thrown.name signature.scope
      line := thrown.line
      column := thrown.column }

def documentedName (tag : Tag) : String := tag.argument.getD ""

/-- The tags that match no declared exception, and the declared exceptions with those marked that a
tag matches. -/
def settleThrows (scope : Option NameScope) :
    List Tag → List (Declared α) → List Tag × List (Declared α)
  | [], declared => ([], declared)
  | tag :: rest, declared =>
    let name := documentedName tag
    match Declared.match? resolver name (resolver.resolveQuietly name scope) declared with
    | some place => settleThrows scope rest (Declared.markFound declared place)
    | none =>
      let (unmatched, settled) := settleThrows scope rest declared
      (tag :: unmatched, settled)

variable (settings : Settings) (signature : Signature) (comment : Comment)

def throwsTags : List Tag := comment.tags.filter (·.kind = .throws)

/-- The tags that match no declared exception, and the declared exceptions. -/
def settledThrows : List Tag × List (Declared α) :=
  settleThrows resolver signature.scope (throwsTags comment) (declaredExceptions resolver signature)

/-- A tag for an unchecked exception that need not be declared. -/
def isTolerated (tag : Tag) : Bool :=
  settings.allowUndeclaredUnchecked &&
    match resolver.resolveQuietly (documentedName tag) signature.scope with
    | some (.known info) => resolver.isUncheckedQuietly info
    | _ => false

def unusedThrows : List Diagnostic :=
  ((settledThrows resolver signature comment).1.filter
    (!isTolerated resolver settings signature ·)).map Tag.unused

/-- The report on an exception that is not documented. -/
def expectedThrows (declared : Declared α) : Diagnostic :=
  ⟨.expectedThrows,
    ⟨orElse declared.line signature.position.line,
      orElse declared.column signature.position.column⟩,
    ["@throws", declared.name]⟩

def missingThrows : List Diagnostic :=
  if settings.allowMissingThrows || isInherited comment then []
  else
    ((settledThrows resolver signature comment).2.filter (!·.found)).map (expectedThrows signature)

/-- All findings on a comment, in the order in which they are reported. -/
def findings : List Diagnostic :=
  missingParams settings signature comment
    ++ mixedStyle settings signature comment
    ++ unusedParams settings signature comment
    ++ resultReport settings signature comment
    ++ unusedThrows resolver settings signature comment
    ++ missingThrows resolver settings signature comment
    ++ strayTags signature comment

/-- The only tag of a comment, if it takes over inherited text. -/
def loneInheritDoc? (tags : List Tag) : Option Tag :=
  match tags with
  | [tag] => if tag.kind = .inheritDoc then some tag else none
  | _ => none

end

end Verification

open Verification in
def verify {α : Type} (settings : Settings) (resolver : Resolver α) (signature : Signature)
    (comment : Option Comment) : List Diagnostic :=
  if !settings.inScope signature.visibility then []
  else
    match comment with
    | none =>
      if settings.mayLackComment signature then [] else [⟨.missingJavadoc, signature.position, []⟩]
    | some comment =>
      match loneInheritDoc? comment.tags with
      | some tag =>
        if signature.mayInheritDoc then [] else [⟨.invalidInheritDoc, tag.position, []⟩]
      | none => findings resolver settings signature comment

open Verification in
/-- What is logged while the comment of a declaration is verified with a resolver that never fails.
-/
def verifyLog {α : Type} (settings : Settings) (resolver : Resolver α) (signature : Signature)
    (comment : Option Comment) : List Log.Record :=
  match comment with
  | none => []
  | some comment =>
    if !settings.inScope signature.visibility || (loneInheritDoc? comment.tags).isSome then []
    else
      ((settledThrows resolver signature comment).1.filter
        (isTolerated resolver settings signature ·)).map fun tag =>
          ⟨.debug, "jdcheck.javadoc.engine",
            "Undeclared unchecked exception " ++ documentedName tag ++ " documented"⟩

end JavadocAudit

import JavadocAudit.Comment
import JavadocAudit.Source.Parser
import JavadocAudit.Source.Walk
import JavadocAudit.Text.Blank

/-!
# Declarations of a source file

The tree of a source text gives the methods and constructors with their documentation comments, and
the types that the file declares, all in the order of the text. Types inside other types are named
by the whole chain of types around them.
-/

namespace JavadocAudit.Source

/-- A method or constructor with its documentation comment. -/
structure Declaration where
  signature : Signature
  comment : Option Comment

structure DeclaredType where
  name : String
  /-- The superclass as written. -/
  superclass : Option String
  /-- Where the name of the superclass is looked up. -/
  scope : NameScope

/-- What a source file declares. -/
structure File where
  header : Header := {}
  types : List DeclaredType := []
  declarations : List Declaration := []

namespace Tree

/-- A text without all that stands between its first `<` and its last `>`, these included. -/
def withoutArguments (cs : List Char) : List Char :=
  let before := cs.takeWhile (· ≠ '<')
  let behind := (cs.reverse.takeWhile (· ≠ '>')).reverse
  if before.length + behind.length < cs.length then before ++ behind else cs

/-- The name of a type without its type arguments. The arguments of the types around it stay if it
has arguments itself, unless there are annotations before it. -/
def typeName (type : Tree) : String :=
  let parts := type.children
  match parts.getLast? with
  | some last =>
    if last.isNode .typeArguments && !parts.head?.any (isNode .annot) then
      Token.textOf (tokensOf parts.dropLast)
    else String.ofList (Text.trim (withoutArguments type.text.toList))
  | none => ""

def annotationNames (modifiers : Tree) : List String :=
  (modifiers.all .annot).filterMap fun annot => annot.declaredName?.map simpleName

def visibility (modifiers : Tree) (inInterface : Bool) : Visibility :=
  if modifiers.hasWord "private" then .privateAccess
  else if modifiers.hasWord "public" || inInterface then .publicAccess
  else if modifiers.hasWord "protected" then .protectedAccess
  else .packageAccess

section

variable (lines : Lines)

/-- A parameter with the position of its name. -/
def namedParameter? (isType : Bool) (tree : Tree) : Option Parameter :=
  (tree.child? .name).map fun name =>
    let position := lines.position name.point
    ⟨name.text, isType, some position.line, some position.column⟩

def parameterList (list : Option Tree) (kind : Kind) (isType : Bool) : List Parameter :=
  (list.map fun list => (list.all kind).filterMap (namedParameter? lines isType)).getD []

/-- A part of a throws clause as an exception. A remark in the clause counts as one. -/
def thrownType? : Tree → Option ThrownType
  | leaf _ => none
  | remark r =>
    let name := String.ofList (Text.trim (withoutArguments r.text.toList))
    let position := lines.position r.point
    some ⟨name, some position.line, some position.column⟩
  | type =>
    let position := lines.position type.point
    some ⟨type.typeName, some position.line, some position.column⟩

def thrownTypes (clause : Tree) : List ThrownType := clause.children.filterMap (thrownType? lines)

end

/-- The number of lines between the first and the last line of a body. -/
def innerLines (body : Tree) : Int :=
  match body.tokens.head?, body.tokens.getLast? with
  | some first, some last => max 0 ((last.point.row : Int) - first.point.row - 1)
  | _, _ => 0

/-- A method has a result unless its type is `void`. -/
def returnsValue (method : Tree) : Bool :=
  match method.child? .type with
  | some (node _ [leaf token]) => !token.isWord "void"
  | some _ => true
  | none => false

def signature? (lines : Lines) (tree : Tree) (inInterface : Bool) (scope : NameScope) :
    Option Signature := do
  let name ← tree.declaredName?
  let modifiers := (tree.child? .modifiers).getD (node .modifiers [])
  return {
    name
    position := lines.position tree.point
    parameters := parameterList lines (tree.child? .parameters) .parameter false
    typeParameters := parameterList lines (tree.child? .typeParameters) .typeParameter true
    exceptions := ((tree.child? .throws).map (thrownTypes lines)).getD []
    returnsValue := tree.isNode .method && tree.returnsValue
    isConstructor := tree.isNode .constructor
    visibility := modifiers.visibility inInterface
    isStatic := modifiers.hasWord "static"
    annotations := modifiers.annotationNames
    bodyLineCount := ((tree.child? .body).map innerLines).getD 0
    scope := some scope }

end Tree

namespace Visit

/-- The part is a remark behind `//`. -/
def isLineRemark : Tree → Bool
  | .remark r => !r.isBlock
  | _ => false

/-- The documentation comment of a declaration: what stands before it, up to line remarks, if that
is a block remark that starts with a second asterisk. -/
def comment? (lines : Lines) (visit : Visit) : Option Comment :=
  match (visit.before.dropWhile isLineRemark).head? with
  | some (.remark r) =>
    if r.text.startsWith "/**" && r.text ≠ "/**/" then
      some (Comment.ofText r.text (lines.position r.point))
    else none
  | _ => none

def declaration? (lines : Lines) (header : Header) (visit : Visit) : Option Declaration :=
  if visit.tree.isNode .method || visit.tree.isNode .constructor then
    (visit.tree.signature? lines (visit.parent = some .interfaceBody)
      (header.scope visit.enclosing)).map (⟨·, visit.comment? lines⟩)
  else none

def declaredType? (header : Header) (visit : Visit) : Option DeclaredType :=
  (visit.typeName? header).map fun name =>
    let superclass := (visit.tree.child? .superclass).bind fun clause =>
      clause.children.getLast?.map Tree.typeName
    ⟨name, superclass, header.scope visit.enclosing⟩

end Visit

namespace File

def ofParts (lines : Lines) (parts : List Tree) : File :=
  let header := Header.ofParts parts
  let visits := Visit.walk header (Visit.siblings none [] [] (Tree.allWithRemarks parts))
  { header
    types := visits.filterMap (Visit.declaredType? header)
    declarations := visits.filterMap (Visit.declaration? lines header) }

/-- What a parser makes out that a source text declares. -/
def ofText (parser : Parser) (text : List Char) : File := ofParts (.ofText text) (parser text).parts

/-- What a source text declares; `none` if the text is not well-formed. -/
def ofText? (text : List Char) : Option File := do
  return ofParts (.ofText text) (← parse? (← Token.scan text))

/-- The classes of a table together with those of a file. A superclass that is neither in the table
nor in the file is kept as written. -/
def classTable (file : File) (base : ClassTable) : ClassTable :=
  let known := base.withClasses (Dict.ofList (file.types.map fun type => (type.name, none)))
  let superclass (type : DeclaredType) : Option String :=
    type.superclass.map fun written =>
      ((known.resolve written (some type.scope)).map (·.name)).getD written
  base.withClasses (Dict.ofList (file.types.map fun type => (type.name, superclass type)))

end File

end JavadocAudit.Source

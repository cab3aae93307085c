import JavadocAudit.Source.Grammar.Rule

/-!
# The grammar of Java

Declarations are described in full, since they are what the checks are about. Expressions are a flat
sequence of operands and operators: how they associate does not matter here, only where they end and
which classes are declared inside them.
-/

namespace JavadocAudit.Source

/-- The constructs of the language that are referred to by name. -/
inductive Construct where
  | name
  | annot
  | modifiers
  | elementValue
  | type
  | plainType
  | simpleType
  | typeArguments
  | typeParameters
  | dimensions
  | typeDeclaration
  | classBody
  | interfaceBody
  | annotationBody
  | enumBody
  | member
  | method
  | constructor
  | fields
  | parameters
  | throws
  | declarator
  | initializer
  | block
  | statement
  | localVariable
  | tryStatement
  | forStatement
  | switchBlock
  | switchLabel
  | pattern
  | recordPattern
  | expression
  | operand
  /-- An expression of a case label, where an arrow ends the label. -/
  | labelExpression
  | labelOperand
  | lambda
  | cast
  | primary
  /-- What can follow an operand to which something can be assigned. -/
  | placeTail
  /-- What can follow any other operand. -/
  | valueTail
  | creation
  | arguments
  | moduleLine
  deriving DecidableEq, Repr

namespace Construct

open Rule

abbrev Part := Rule Construct

/-- A word that is no keyword. -/
def identifier : Part := terminal .identifier

/-- Any word where only a name can stand. -/
def anyName : Part := terminal .anyWord

def declaredName : Part := node .name anyName

def commaSep (rule : Part) : Part := sepBy rule (sym ",")

def parens (rule : Part) : Part := seq [sym "(", rule, sym ")"]

def braces (rule : Part) : Part := seq [sym "\x7b", rule, sym "\x7d"]

/-- An expression in parentheses. -/
def condition : Part := parens (ref .expression)

def modifierWords : List String :=
  ["public", "protected", "private", "abstract", "static", "final", "strictfp", "default",
   "synchronized", "native", "transient", "volatile", "sealed"]

/-- The word that is written with a hyphen. -/
def nonSealed : Part :=
  seq [word "non", terminal (.glued "-"), terminal (.gluedWord "sealed")]

/-- The names of types that are no classes. -/
def primitiveTypes : List String :=
  ["void", "byte", "short", "int", "long", "char", "float", "double", "boolean"]

/-- A type that may extend or implement others in a list. -/
def typeList : Part := commaSep (ref .type)

def classRest : Part :=
  seq [word "class", declaredName, opt (ref .typeParameters),
    opt (node .superclass (seq [word "extends", ref .type])),
    opt (seq [word "implements", typeList]), opt (seq [word "permits", typeList]), ref .classBody]

def recordRest : Part :=
  seq [word "record", declaredName, opt (ref .typeParameters), ref .parameters,
    opt (seq [word "implements", typeList]), ref .classBody]

def interfaceRest : Part :=
  seq [word "interface", declaredName, opt (ref .typeParameters),
    opt (seq [word "extends", typeList]), opt (seq [word "permits", typeList]), ref .interfaceBody]

/-- An annotation type behind its modifiers. -/
def annotationRest : Part := seq [sym "@interface", declaredName, ref .annotationBody]

def enumRest : Part :=
  seq [word "enum", declaredName, opt (seq [word "implements", typeList]), ref .enumBody]

def annotationElement : Part :=
  seq [opt (ref .modifiers), ref .plainType, anyName, sym "(", sym ")", opt (ref .dimensions),
    opt (seq [word "default", ref .elementValue]), sym ";"]

def enumConstant : Part :=
  seq [opt (ref .modifiers), anyName, opt (ref .arguments), opt (ref .classBody)]

def methodBody : Part := node .body (ref .block)

def constructorCall : Part :=
  seq [opt (ref .typeArguments), words ["this", "super"], ref .arguments, sym ";"]

def constructorBody : Part :=
  node .body (braces (seq [opt constructorCall, many (ref .statement)]))

/-- The parameter that stands for the object itself. -/
def receiver : Part :=
  seq [many (ref .annot), ref .plainType, many (seq [identifier, sym "."]), word "this"]

def parameter : Part :=
  node .parameter
    (oneOf
      [seq [opt (ref .modifiers), ref .plainType, sym "...", many (ref .annot),
         ref .declarator],
       seq [opt (ref .modifiers), ref .plainType, declaredName, opt (ref .dimensions)]])

/-- Declarations of variables with one type. -/
def variableLine : Part :=
  seq [opt (ref .modifiers), ref .plainType, commaSep (ref .declarator), sym ";"]

def moduleDirective : Part :=
  let names := commaSep (ref .name)
  seq
    [oneOf
      [seq [word "requires", many (words ["transitive", "static"]), ref .name],
       seq [word "exports", ref .name, opt (seq [word "to", names])],
       seq [word "opens", ref .name, opt (seq [word "to", names])],
       seq [word "uses", ref .name],
       seq [word "provides", ref .name, word "with", names]],
     sym ";"]

def packageLine : Part :=
  node .package (seq [many (ref .annot), word "package", ref .name, sym ";"])

/-- The line that imports a type, its members, or all types of a package. -/
def importLine : Part :=
  node .importLine
    (seq [word "import", opt (word "static"), ref .name, opt (seq [sym ".", sym "*"]), sym ";"])

/-- A statement that starts with a keyword and needs nothing but an expression and statements. -/
def keywordStatement : Part :=
  oneOf
    [seq [word "if", condition, ref .statement, opt (seq [word "else", ref .statement])],
     seq [word "while", condition, ref .statement],
     seq [word "do", ref .statement, word "while", condition, sym ";"],
     seq [word "switch", condition, ref .switchBlock],
     seq [word "synchronized", condition, ref .block],
     seq [word "return", opt (ref .expression), sym ";"],
     seq [word "throw", ref .expression, sym ";"],
     seq [words ["break", "continue"], opt identifier, sym ";"],
     seq [word "assert", ref .expression, opt (seq [sym ":", ref .expression]), sym ";"],
     seq [word "yield", ref .expression, sym ";"]]

def catchClause : Part :=
  seq
    [word "catch",
     parens (seq [opt (ref .modifiers), sepBy (ref .plainType) (sym "|"), declaredName,
       opt (ref .dimensions)]),
     ref .block]

def finallyClause : Part := seq [word "finally", ref .block]

def resource : Part :=
  oneOf
    [seq [opt (ref .modifiers), ref .plainType, declaredName, opt (ref .dimensions), sym "=",
       ref .expression],
     ref .primary]

def assignment : Part :=
  let greater := terminal (.glued ">")
  oneOf
    [syms ["=", "+=", "-=", "*=", "/=", "&=", "|=", "^=", "%=", "<<="],
     seq [sym ">", greater, opt greater, terminal (.glued "=")]]

/-- The operators between two operands. -/
def binary : Part :=
  let greater := terminal (.glued ">")
  let equals := terminal (.glued "=")
  oneOf
    [syms ["||", "&&", "|", "^", "&", "==", "!=", "<", "<=", "<<", "+", "-", "*", "/", "%"],
     seq [sym ">", greater, opt greater, absent equals],
     seq [sym ">", opt equals]]

/-- A test of the class of an operand. -/
def instanceTest : Part :=
  seq
    [word "instanceof", opt (word "final"),
     oneOf [ref .recordPattern, seq [ref .type, opt identifier]]]

/-- An expression made of operands of one kind. -/
def operation (part : Construct) : Part :=
  both (ref part)
    (many (oneOf
      [seq [binary, ref part],
       instanceTest,
       seq [sym "?", ref .expression, sym ":", ref part]]))

/-- An operand that starts neither with its parameters nor with its type. -/
def plainOperand (self : Construct) : List Part :=
  [seq [syms ["+", "-", "!", "~", "++", "--"], ref self],
   seq [word "switch", condition, ref .switchBlock],
   seq [ref .primary, many (syms ["++", "--"])]]

/-- A constant that is written out. -/
def literal : Part :=
  oneOf [terminal .number, terminal .character, terminal .text, words ["true", "false", "null"]]

/-- What a method reference names. -/
def referenced : Part :=
  seq [sym "::", opt (ref .typeArguments), oneOf [word "new", identifier]]

def rule : Construct → Part
  | .name => node .name (sepBy anyName (sym "."))
  | .annot =>
    node .annot
      (seq
        [sym "@", ref .name,
         opt (parens (oneOf
           [seq [commaSep (seq [anyName, sym "=", ref .elementValue]), ahead (sym ")")],
            ref .elementValue,
            nothing]))])
  | .modifiers => node .modifiers (atLeastOne (oneOf [ref .annot, words modifierWords, nonSealed]))
  | .elementValue =>
    oneOf
      [ref .annot,
       braces (seq [opt (commaSep (ref .elementValue)), opt (sym ",")]),
       ref .expression]
  | .type =>
    node .type
      (seq [many (ref .annot), ref .simpleType, opt (ref .dimensions)])
  | .plainType => node .type (seq [ref .simpleType, opt (ref .dimensions)])
  | .simpleType =>
    oneOf
      [words primitiveTypes,
       seq
        [identifier, opt (ref .typeArguments),
         many (seq [sym ".", many (ref .annot), identifier, opt (ref .typeArguments)])]]
  | .typeArguments =>
    let wildcard := seq
      [many (ref .annot), sym "?", opt (seq [words ["extends", "super"], ref .type])]
    node .typeArguments
      (seq [sym "<", opt (commaSep (oneOf [wildcard, ref .type])), sym ">"])
  | .typeParameters =>
    node .typeParameters
      (seq
        [sym "<",
         commaSep (node .typeParameter (seq
           [many (ref .annot), node .name identifier,
            opt (seq [word "extends", sepBy (ref .type) (sym "&")])])),
         sym ">"])
  | .dimensions => atLeastOne (seq [many (ref .annot), sym "[", sym "]"])
  | .typeDeclaration =>
    node .typeDeclaration
      (both (opt (ref .modifiers))
        (oneOf [classRest, recordRest, interfaceRest, annotationRest, enumRest]))
  | .classBody => braces (many (ref .member))
  | .interfaceBody =>
    node .interfaceBody
      (braces (many (oneOf [ref .typeDeclaration, ref .method, ref .fields, sym ";"])))
  | .annotationBody =>
    node .interfaceBody
      (braces (many (oneOf [ref .typeDeclaration, annotationElement, ref .fields, sym ";"])))
  | .enumBody =>
    braces (seq
      [opt (commaSep enumConstant), opt (sym ","),
       opt (seq [sym ";", many (ref .member)])])
  | .member =>
    oneOf
      [ref .typeDeclaration, ref .method, ref .constructor, ref .fields, ref .block,
       seq [word "static", ref .block], sym ";"]
  | .method =>
    node .method
      (seq
        [opt (ref .modifiers), opt (seq [ref .typeParameters, many (ref .annot)]),
         ref .plainType, declaredName, ref .parameters, opt (ref .dimensions), opt (ref .throws),
         oneOf [methodBody, sym ";"]])
  | .constructor =>
    node .constructor
      (both (opt (ref .modifiers))
        (oneOf
          [seq [opt (ref .typeParameters), node .name identifier, ref .parameters,
             opt (ref .throws), constructorBody],
           seq [node .name identifier, methodBody]]))
  | .fields => variableLine
  | .parameters =>
    node .parameters
      (parens (oneOf
        [seq [receiver, ahead (sym ")")],
         seq [opt (seq [receiver, sym ","]), opt (commaSep parameter)]]))
  | .throws => node .throws (seq [word "throws", commaSep (ref .type)])
  | .declarator =>
    seq [declaredName, opt (ref .dimensions), opt (seq [sym "=", ref .initializer])]
  | .initializer =>
    oneOf
      [braces (seq [opt (commaSep (ref .initializer)), opt (sym ",")]), ref .expression]
  | .block => braces (many (ref .statement))
  | .statement =>
    oneOf
      [ref .block, sym ";", ref .typeDeclaration, ref .moduleLine, packageLine, importLine,
       keywordStatement, ref .tryStatement, ref .forStatement, ref .localVariable,
       seq [identifier, sym ":", ref .statement],
       seq [absent (word "switch"), ref .expression, sym ";"]]
  | .localVariable => variableLine
  | .tryStatement =>
    both (word "try")
      (oneOf
        [seq
          [ref .block,
           oneOf [seq [atLeastOne catchClause, opt finallyClause], finallyClause]],
         seq
          [parens (seq [sepBy resource (sym ";"), opt (sym ";")]), ref .block, many catchClause,
           opt finallyClause]])
  | .forStatement =>
    seq
      [word "for",
       parens (oneOf
         [seq [opt (ref .modifiers), ref .plainType, declaredName, opt (ref .dimensions), sym ":",
            ref .expression],
          seq
           [oneOf [variableLine, seq [opt (commaSep (ref .expression)), sym ";"]],
            opt (ref .expression), sym ";", opt (commaSep (ref .expression))]]),
       ref .statement]
  | .switchBlock =>
    let group := seq [atLeastOne (seq [ref .switchLabel, sym ":"]), many (ref .statement)]
    let arrow := seq
      [ref .switchLabel, sym "->",
       oneOf [ref .block, seq [word "throw", ref .expression, sym ";"],
         seq [ref .expression, sym ";"]]]
    let startsArrow := ahead (seq [ref .switchLabel, sym "->"])
    braces (oneOf [both startsArrow (many arrow), many group])
  | .switchLabel =>
    let guard := opt (seq [word "when", ref .labelExpression])
    oneOf
      [word "default",
       seq [word "case", ref .pattern, guard, ahead (syms ["->", ":"])],
       seq [word "case", commaSep (oneOf [word "default", ref .labelExpression]), guard]]
  | .pattern => oneOf [ref .recordPattern, seq [ref .plainType, identifier]]
  | .recordPattern =>
    seq
      [ref .plainType,
       parens (opt (commaSep (oneOf
         [ref .recordPattern, seq [ref .plainType, identifier], word "_"])))]
  | .expression => operation .operand
  | .operand => oneOf ([ref .lambda, ref .cast] ++ plainOperand .operand)
  | .labelExpression => operation .labelOperand
  | .labelOperand => oneOf (ref .cast :: plainOperand .labelOperand)
  | .lambda =>
    seq
      [oneOf
        [seq [identifier, sym "->"],
         seq [ref .parameters, sym "->"],
         seq [parens (commaSep identifier), sym "->"]],
       oneOf [ref .block, ref .expression]]
  | .cast => seq [parens (sepBy (ref .type) (sym "&")), ref .operand]
  | .primary =>
    oneOf
      [seq [literal, ref .valueTail],
       seq [ref .plainType, sym ".", word "class", ref .valueTail],
       seq [ref .type, referenced, ref .valueTail],
       seq [identifier, ref .arguments, ref .valueTail],
       seq [identifier, ref .placeTail],
       seq [word "this", ref .valueTail],
       seq [word "super", ahead (syms [".", "::"]), ref .valueTail],
       seq [condition, ref .valueTail],
       seq [ref .creation, ref .valueTail]]
  | .placeTail => oneOf [seq [assignment, ref .expression], ref .valueTail]
  | .valueTail =>
    oneOf
      [seq [sym ".", identifier, ref .arguments, ref .valueTail],
       seq [sym ".", identifier, ref .placeTail],
       seq [sym ".", ref .typeArguments, identifier, ref .arguments, ref .valueTail],
       seq [sym ".", word "this", ref .placeTail],
       seq [sym ".", word "super", ahead (syms [".", "::"]), ref .valueTail],
       seq [sym ".", opt (ref .typeArguments), word "super", ref .arguments],
       seq [sym ".", ref .creation, ref .valueTail],
       seq [sym ".", terminal .text, ref .valueTail],
       seq [sym "[", ref .expression, sym "]", ref .placeTail],
       seq [referenced, ref .valueTail],
       nothing]
  | .creation =>
    let dimension := seq [many (ref .annot), sym "[", ref .expression, sym "]"]
    both (word "new")
      (oneOf
        [seq
          [many (ref .annot), opt (seq [ref .typeArguments, many (ref .annot)]),
           ref .simpleType, ref .arguments, opt (ref .classBody)],
         seq
          [many (ref .annot), ref .simpleType,
           oneOf
            [seq [atLeastOne dimension, opt (ref .dimensions)],
             seq [ref .dimensions,
               braces (seq [opt (commaSep (ref .initializer)), opt (sym ",")])]]]])
  | .arguments => parens (opt (commaSep (ref .expression)))
  | .moduleLine =>
    seq
      [many (ref .annot), opt (word "open"), word "module", ref .name,
       braces (many moduleDirective)]

/-- A whole source text. A record is told from a method before anything else is tried. -/
def unit : Part := many (oneOf [ref .typeDeclaration, ref .method, ref .statement])

end Construct

/-- The parts of a source text; `none` if the text is not well-formed. Between two tokens there are
less than a thousand steps. -/
def parse? (tokens : List Token) : Option (List Tree) :=
  match Rule.run Construct.rule (1000 * (tokens.length + 1)) Construct.unit tokens with
  | .accepted trees [] => some trees
  | _ => none

end JavadocAudit.Source

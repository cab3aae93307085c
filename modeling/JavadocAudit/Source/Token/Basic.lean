import JavadocAudit.Source.Point

/-!
# Tokens of Java source

A source text is a sequence of tokens with white space and remarks between them. Every token keeps
the text that stands before it, so the text of any run of tokens can be shown as it was written.
-/

namespace JavadocAudit.Source

/-- A comment of any kind in a source text. -/
structure Remark where
  text : String
  /-- The remark stands between `/*` and `*/` and not behind `//`. -/
  isBlock : Bool
  point : Point
  deriving DecidableEq, Repr

inductive Token.Kind where
  /-- A name or a keyword. -/
  | word
  | number
  | character
  | text
  | symbol
  deriving DecidableEq, Repr

structure Token where
  kind : Token.Kind
  text : String
  point : Point
  /-- What stands between the token before and this one. -/
  lead : String := ""
  /-- The remarks in it. -/
  remarks : List Remark := []
  deriving DecidableEq, Repr

namespace Token

/-- The words that cannot be names of variables, methods or types in expressions. -/
def keywords : List String :=
  ["abstract", "assert", "boolean", "break", "byte", "case", "catch", "char", "class", "continue",
   "default", "do", "double", "else", "enum", "extends", "false", "final", "finally", "float",
   "for", "if", "implements", "import", "instanceof", "int", "interface", "long", "native", "new",
   "null", "package", "private", "protected", "public", "return", "short", "static", "strictfp",
   "super", "switch", "synchronized", "this", "throw", "throws", "transient", "true", "try",
   "void", "volatile", "while"]

def isWord (token : Token) (text : String) : Bool := token.kind = .word && token.text = text

def isSymbol (token : Token) (text : String) : Bool := token.kind = .symbol && token.text = text

/-- Nothing stands between the token before and this one. -/
def isGlued (token : Token) : Bool := token.lead.isEmpty

/-- The text of a run of tokens, without what stands before the first one. -/
def textOf : List Token → String
  | [] => ""
  | first :: rest => rest.foldl (fun text token => text ++ token.lead ++ token.text) first.text

end Token

end JavadocAudit.Source

import JavadocAudit.Comment
import JavadocAudit.Signature
import JavadocAudit.Text.Case
import JavadocAudit.Text.Word

/-!
# Parameters and results described in running text

Some comments describe parameters by writing their names in capitals, and results by a sentence
about returning something. Both are recognised word by word.
-/

namespace JavadocAudit

open Text

namespace Narrative

def isCapital (c : Char) : Bool := ('A' ≤ c && c ≤ 'Z') || ('0' ≤ c && c ≤ '9') || c = '_'

/-- A word written in capitals that could be the name of a parameter. -/
def isCapitalName (word : List Char) : Bool :=
  word.all isCapital && !word.head?.any fun c => '0' ≤ c && c ≤ '9'

def returnWords : List (List Char) :=
  ["return", "returns", "returning", "yield", "yields", "yielding"].map String.toList

/-- Words that are the same when case is ignored. -/
def sameWord : List Char → List Char → Bool
  | [], [] => true
  | a :: as, b :: bs => sameLetter a b && sameWord as bs
  | _, _ => false

end Narrative

namespace Comment

open Narrative

def words (comment : Comment) : List (List Char) :=
  comment.lines.flatMap fun line => Text.words line.toList

/-- Some word speaks of returning a value. -/
def mentionsReturn (comment : Comment) : Bool :=
  comment.words.any fun word => returnWords.any (sameWord word)

/-- Some word is the name of the parameter in capitals. -/
def mentions (comment : Comment) (parameter : Parameter) : Bool :=
  comment.words.any fun word =>
    isCapitalName word && lower word == lower parameter.bareName.toList

def mentioned (comment : Comment) (parameters : List Parameter) : List String :=
  (parameters.filter comment.mentions).map (·.tagName)

end Comment

end JavadocAudit

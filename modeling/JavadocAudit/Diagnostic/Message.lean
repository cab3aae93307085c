import JavadocAudit.Diagnostic.Basic

/-!
# Messages

Each kind of diagnostic has a fixed wording that shows up to two arguments. A wording that lacks an
argument has no text. An unused tag is worded by the number of arguments it has.
-/

namespace JavadocAudit.Diagnostic

def message? (d : Diagnostic) : Option String :=
  match d.kind, d.args with
  | .missingJavadoc, _ => some "Missing a Javadoc comment."
  | .invalidInheritDoc, _ => some "Invalid use of the \x7b@inheritDoc\x7d tag."
  | .expectedParam, tag :: name :: _ => some ("Expected " ++ tag ++ " tag for '" ++ name ++ "'.")
  | .expectedParam, _ => none
  | .expectedReturn, _ => some "Expected an @return tag."
  | .expectedThrows, tag :: name :: _ => some ("Expected " ++ tag ++ " tag for '" ++ name ++ "'.")
  | .expectedThrows, _ => none
  | .duplicateTag, tag :: _ => some ("Duplicate " ++ tag ++ " tag.")
  | .duplicateTag, [] => none
  | .unusedTag, [] => some "Unused Javadoc tag."
  | .unusedTag, [tag] => some ("Unused " ++ tag ++ " tag.")
  | .unusedTag, tag :: name :: _ => some ("Unused " ++ tag ++ " tag for '" ++ name ++ "'.")
  | .mixedStyle, _ => some "Mixed @param tags and narrative parameter descriptions."

def report? (path : String) (d : Diagnostic) : Option String :=
  d.message?.map fun message =>
    path ++ ":" ++ toString d.position.line ++ ":" ++ toString d.position.column ++ ": " ++ message

end JavadocAudit.Diagnostic

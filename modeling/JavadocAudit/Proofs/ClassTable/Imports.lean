import JavadocAudit.ClassTable.Standard
import JavadocAudit.Proofs.ClassTable.Lookup

/-!
# What an import is worth

The import of a type decides what the first segment of a name stands for, and the other segments
name a member of that type. It is one of several places at which a name is looked up: member types
of the enclosing types come before it, and the package, the name as it is, the packages imported on
demand and the language's own package behind it. A table need not have the class that is imported.
If it has, the name stands for that class. If it has not, the search goes on as if nothing were
imported, and may end at a class that has nothing but its simple name in common with the import.
-/

namespace JavadocAudit.ClassTable

variable {table : ClassTable} {scope : NameScope} {head target name : String}
  {segments : List String}

/-- The name that is made of segments, with dots in between. -/
def dotted : List String → String
  | [] => ""
  | [segment] => segment
  | segment :: rest => qualify segment (dotted rest)

/-- What the segments of a name stand for behind an imported class. A dot at the end of the name
adds nothing. -/
def importedClass (target : String) (segments : List String) : String :=
  if segments = [""] then target else dotted (target :: segments)

section Segments

/-- A name is cut where its first dot stands, or at its end. -/
theorem splitHead_of_append {tail : List Char} (single : '.' ∉ head.toList)
    (text : name.toList = head.toList ++ tail) (next : tail.head?.all (· = '.') = true) :
    splitHead name = (head, String.ofList tail.tail) := by
  have before : ∀ c ∈ head.toList, decide (c ≠ '.') = true := by
    intro c member
    simpa using fun dot : c = '.' => single (dot ▸ member)
  have behind : tail.takeWhile (· ≠ '.') = [] ∧ tail.dropWhile (· ≠ '.') = tail := by
    cases tail with
    | nil => exact ⟨rfl, rfl⟩
    | cons c rest =>
        obtain rfl : c = '.' := by simpa using next
        exact ⟨rfl, rfl⟩
  unfold splitHead
  simp only
  rw [text, List.takeWhile_append_of_pos before, List.dropWhile_append_of_pos before, behind.1,
    behind.2, List.append_nil, String.ofList_toList]

/-- The first segment of a name is what stands before its first dot. -/
theorem splitHead_dotted (single : '.' ∉ head.toList) (segments : List String) :
    splitHead (dotted (head :: segments)) = (head, dotted segments) := by
  cases segments with
  | nil => exact splitHead_of_append single (List.append_nil _).symm rfl
  | cons segment rest =>
      have text : (qualify head (dotted (segment :: rest))).toList =
          head.toList ++ '.' :: (dotted (segment :: rest)).toList := by
        simp [qualify]
      show splitHead (qualify head (dotted (segment :: rest))) = _
      rw [splitHead_of_append single text rfl, List.tail_cons, String.ofList_toList]

theorem dotted_eq_empty_iff : dotted segments = "" ↔ segments = [] ∨ segments = [""] := by
  cases segments with
  | nil => simp [dotted]
  | cons segment rest =>
      cases rest with
      | nil => simp [dotted]
      | cons next more =>
          have dot : dotted (segment :: next :: more) ≠ "" := by
            intro empty
            have length := congrArg String.length empty
            simp [dotted, qualify] at length
          simp [dot]

/-- An import says what its name stands for, followed by all segments that follow the name. -/
theorem imported?_dotted (single : '.' ∉ head.toList)
    (imported : scope.imports.get? head = some target) (segments : List String) :
    imported? scope (dotted (head :: segments)) = some (importedClass target segments) := by
  simp only [imported?, splitHead_dotted single, imported, Option.map_some, importedClass]
  cases segments with
  | nil => rfl
  | cons segment rest =>
      have last : (dotted (segment :: rest)).isEmpty = true ↔ segment :: rest = [""] := by
        rw [String.isEmpty_iff, dotted_eq_empty_iff]
        simp
      simp only [last]
      rfl

end Segments

section Search

/-- Behind the member types of the enclosing types comes the import, and behind the import all that
would come without imports. -/
theorem candidates_eq_append_imported (name : String) (scope : NameScope) :
    candidates name (some scope) =
      (scope.enclosing.reverse.map fun outer => qualify outer name) ++
        ((imported? scope name).toList ++
          candidates name (some { scope with imports := [], enclosing := [] })) := by
  simp [candidates, imported?]

variable (noMember : ∀ outer ∈ scope.enclosing, table.knows (qualify outer name) = false)
include noMember

/-- Where no enclosing type has a member of the name, the import is the first candidate. -/
theorem find?_candidates_of_no_member :
    (candidates name (some scope)).find? table.knows =
      ((imported? scope name).toList ++
        candidates name (some { scope with imports := [], enclosing := [] })).find?
          table.knows := by
  have inside : (scope.enclosing.reverse.map fun outer => qualify outer name).find?
      table.knows = none := by
    simpa using noMember
  rw [candidates_eq_append_imported, List.find?_append, inside, Option.none_or]

theorem resolve_of_known_import {superclass : Option String}
    (imported : imported? scope name = some target)
    (own : table.superclass? target = some superclass) :
    table.resolve name (some scope) = some ⟨target, superclass⟩ := by
  refine resolve_eq_some ?_ own
  rw [find?_candidates_of_no_member noMember, imported, Option.toList_some,
    List.singleton_append, List.find?_cons_of_pos (knows_of_superclass? own)]

/-- An import of a class that is not known is passed over. -/
theorem resolve_of_unknown_import (imported : imported? scope name = some target)
    (unknown : table.knows target = false) :
    table.resolve name (some scope) = table.resolve name (some { scope with imports := [] }) := by
  apply resolve_eq_of_find?_eq
  have without : (candidates name (some { scope with imports := [] })).find? table.knows =
      (candidates name (some { scope with imports := [], enclosing := [] })).find? table.knows :=
    find?_candidates_of_no_member noMember
  rw [find?_candidates_of_no_member noMember, without, imported, Option.toList_some,
    List.singleton_append, List.find?_cons_of_neg (by simp [unknown])]

end Search

/-- Let the first segment of a name be imported, and let no enclosing type have a member of that
name. If the imported class, followed by the other segments, is in the table, the name stands for
it, whatever else the table has. If it is not in the table, the name stands for what it would stand
for without imports. -/
theorem known_import_fixes_name (table : ClassTable) (scope : NameScope) {head target : String}
    (segments : List String) (single : '.' ∉ head.toList)
    (imported : scope.imports.get? head = some target)
    (noMember : ∀ outer ∈ scope.enclosing,
      table.knows (qualify outer (dotted (head :: segments))) = false) :
    (∀ superclass, table.superclass? (importedClass target segments) = some superclass →
      table.resolve (dotted (head :: segments)) (some scope) =
        some ⟨importedClass target segments, superclass⟩) ∧
    (table.knows (importedClass target segments) = false →
      table.resolve (dotted (head :: segments)) (some scope) =
        table.resolve (dotted (head :: segments)) (some { scope with imports := [] })) := by
  have meant := imported?_dotted single imported segments
  exact ⟨fun _ => resolve_of_known_import noMember meant, resolve_of_unknown_import noMember meant⟩

/-- A file that imports an exception of another library. -/
def importingScope : NameScope where
  package := some "org.app"
  imports := [("IllegalStateException", "org.acme.IllegalStateException")]
  onDemand := ["java.util"]
  enclosing := ["org.app.Main"]

/-- A table that has a member of the imported class, but not the class itself. -/
def memberTable : ClassTable := withStandard [("org.acme.IllegalStateException.Late", none)]

/-- The import says what the name of the member stands for, and has no say in that of the class. -/
theorem importingScope_fixes_member :
    memberTable.resolve "IllegalStateException.Late" (some importingScope) =
        some ⟨"org.acme.IllegalStateException.Late", none⟩ ∧
      memberTable.resolve "IllegalStateException" (some importingScope) =
        memberTable.resolve "IllegalStateException"
          (some { importingScope with imports := [] }) := by
  have single : '.' ∉ "IllegalStateException".toList := by decide
  have imported : importingScope.imports.get? "IllegalStateException" =
      some "org.acme.IllegalStateException" := by decide
  have member := known_import_fixes_name memberTable importingScope ["Late"] single imported
    (by decide +kernel)
  have outer := known_import_fixes_name memberTable importingScope [] single imported
    (by decide +kernel)
  have name : dotted ["IllegalStateException", "Late"] = "IllegalStateException.Late" := by decide
  have named : importedClass "org.acme.IllegalStateException" ["Late"] =
      "org.acme.IllegalStateException.Late" := by decide
  refine ⟨?_, outer.2 (by decide +kernel)⟩
  rw [← name, ← named]
  exact member.1 none (by decide +kernel)

/-- An import of a class that the table does not have does not fix the name: it stands for a class
of the language's own package, which is neither the imported one nor none. -/
theorem unknown_import_is_passed_over :
    '.' ∉ "IllegalStateException".toList ∧
      importingScope.imports.get? "IllegalStateException" =
        some "org.acme.IllegalStateException" ∧
      (∀ outer ∈ importingScope.enclosing,
        (withStandard []).knows (qualify outer "IllegalStateException") = false) ∧
      (withStandard []).resolve "IllegalStateException" (some importingScope) =
        some ⟨"java.lang.IllegalStateException", some "java.lang.RuntimeException"⟩ ∧
      ¬ ((withStandard []).resolve "IllegalStateException" (some importingScope) = none ∨
        ∃ superclass, (withStandard []).resolve "IllegalStateException" (some importingScope) =
          some ⟨"org.acme.IllegalStateException", superclass⟩) := by
  have found : (withStandard []).resolve "IllegalStateException" (some importingScope) =
      some ⟨"java.lang.IllegalStateException", some "java.lang.RuntimeException"⟩ := by
    decide +kernel
  refine ⟨by decide, by decide, by decide +kernel, found, ?_⟩
  rw [found]
  simp

end JavadocAudit.ClassTable

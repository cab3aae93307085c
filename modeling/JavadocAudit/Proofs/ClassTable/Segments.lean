import JavadocAudit.ClassTable.Standard
import JavadocAudit.Proofs.ClassTable.Lookup
import JavadocAudit.Source.Header
import Mathlib.Data.List.TakeWhile

/-!
# Segments of names

Dots cut a name into segments, and the last one is its simple name. To put a name behind another one
is to append its segments, so it keeps its simple name there. An import puts another name in the
place of the first segment, which matters for the simple name only if there are no other segments.
Since a file imports under the last segment of what it imports, nothing is lost then either, and the
class that a name stands for has the simple name of the name.
-/

namespace JavadocAudit

/-- The segments of a name, which its dots separate. -/
def segments (name : String) : List String := (name.toList.splitOn '.').map String.ofList

section Segments

/-- A name without dots is its own segment. -/
theorem segments_eq_singleton {name : String} (single : '.' ∉ name.toList) :
    segments name = [name] := by
  have noDot : ∀ c ∈ name.toList, (c == '.') = false := by
    intro c member
    simpa using fun dot : c = '.' => single (dot ▸ member)
  rw [segments, List.splitOn, List.splitOnP_eq_singleton noDot, List.map_singleton,
    String.ofList_toList]

theorem segments_empty : segments "" = [""] := segments_eq_singleton (by simp)

theorem segments_qualify (outer name : String) :
    segments (ClassTable.qualify outer name) = segments outer ++ segments name := by
  have text : (ClassTable.qualify outer name).toList = outer.toList ++ '.' :: name.toList := by
    simp [ClassTable.qualify]
  rw [segments, text, List.splitOn, List.splitOnP_append_cons _ _ (by simp), List.map_append]
  rfl

theorem dot_not_mem_simpleName (name : String) : '.' ∉ (simpleName name).toList := by
  intro dot
  rw [simpleName, String.toList_ofList, List.mem_reverse] at dot
  simpa using List.mem_takeWhile_imp dot

/-- A name is simple, or its simple name stands behind a dot. -/
theorem eq_simpleName_or_qualify (name : String) :
    name = simpleName name ∨ ∃ outer, name = ClassTable.qualify outer (simpleName name) := by
  have stop := List.head?_dropWhile_not (· ≠ '.') name.toList.reverse
  have text : name.toList =
      (name.toList.reverse.dropWhile (· ≠ '.')).reverse ++ (simpleName name).toList := by
    rw [simpleName, String.toList_ofList, ← List.reverse_append, List.takeWhile_append_dropWhile,
      List.reverse_reverse]
  cases before : name.toList.reverse.dropWhile (· ≠ '.') with
  | nil =>
      rw [before, List.reverse_nil, List.nil_append] at text
      exact .inl (String.toList_injective text)
  | cons c rest =>
      rw [before] at text stop
      obtain rfl : c = '.' := by simpa using stop
      refine .inr ⟨String.ofList rest.reverse, String.toList_injective ?_⟩
      rw [text]
      simp [ClassTable.qualify]

/-- The simple name of a name is its last segment. -/
theorem getLast?_segments (name : String) :
    (segments name).getLast? = some (simpleName name) := by
  have last := segments_eq_singleton (dot_not_mem_simpleName name)
  obtain simple | ⟨outer, qualified⟩ := eq_simpleName_or_qualify name
  · rw [← simple] at last
    rw [last, ← simple, List.getLast?_singleton]
  · rw [congrArg segments qualified, segments_qualify, last, List.getLast?_concat]

theorem simpleName_qualify (outer name : String) :
    simpleName (ClassTable.qualify outer name) = simpleName name := by
  have last := getLast?_segments (ClassTable.qualify outer name)
  rw [segments_qualify, List.getLast?_append, getLast?_segments name, Option.some_or] at last
  exact (Option.some.inj last).symm

theorem simpleName_simpleName (name : String) : simpleName (simpleName name) = simpleName name := by
  have last := getLast?_segments (simpleName name)
  rw [segments_eq_singleton (dot_not_mem_simpleName name)] at last
  exact (Option.some.inj last).symm

end Segments

/-- Every import stands under the last segment of what is imported. -/
def KeyedByLastSegment (imports : Dict String String) : Prop :=
  ∀ entry ∈ imports, (segments entry.2).getLast? = some entry.1

theorem KeyedByLastSegment.simpleName_eq {imports : Dict String String}
    (h : KeyedByLastSegment imports) {key target : String}
    (found : imports.get? key = some target) : simpleName target = key := by
  obtain ⟨front, back, rfl, -⟩ := List.lookup_eq_some_iff.mp found
  have last := h (key, target) (by simp)
  rw [getLast?_segments] at last
  exact Option.some.inj last

namespace ClassTable

variable {table : ClassTable} {scope : NameScope} {name candidate : String}

/-- A name has no dot, or its first dot separates its head from the rest. -/
theorem splitHead_cases (name : String) :
    splitHead name = (name, "") ∨
      ∃ head tail, splitHead name = (head, tail) ∧ name = qualify head tail := by
  have stop := List.head?_dropWhile_not (· ≠ '.') name.toList
  have text := (List.takeWhile_append_dropWhile (p := (· ≠ '.')) (l := name.toList)).symm
  cases behind : name.toList.dropWhile (· ≠ '.') with
  | nil =>
      rw [behind, List.append_nil] at text
      left
      rw [splitHead, behind, ← text, String.ofList_toList]
      rfl
  | cons c rest =>
      rw [behind] at text stop
      obtain rfl : c = '.' := by simpa using stop
      refine .inr ⟨_, _, rfl, String.toList_injective ?_⟩
      rw [behind]
      simpa [qualify] using text

/-- What is imported has the same last segment, unless a dot stands behind the imported name. -/
theorem simpleName_of_imported? (keyed : KeyedByLastSegment scope.imports)
    (proper : "" ∉ segments name) (h : imported? scope name = some candidate) :
    simpleName candidate = simpleName name := by
  obtain single | ⟨head, tail, split, rfl⟩ := splitHead_cases name
  · -- The whole name is imported, and what is imported ends in it.
    have found : scope.imports.get? name = some candidate := by simpa [imported?, single] using h
    rw [← keyed.simpleName_eq found, simpleName_simpleName]
  · -- The rest of the name stands behind what is imported as it stood behind the head.
    have more : tail ≠ "" := by
      rintro rfl
      rw [segments_qualify, segments_empty] at proper
      simp at proper
    simp only [imported?, split, String.isEmpty_iff, more, if_false] at h
    obtain ⟨target, -, rfl⟩ := Option.map_eq_some_iff.mp h
    rw [simpleName_qualify, simpleName_qualify]

/-- What a name may stand for is the name itself, the name behind another one, or what is imported
under it. -/
theorem candidates_cases {scope : Option NameScope} (h : candidate ∈ candidates name scope) :
    candidate = name ∨ (∃ outer, candidate = qualify outer name) ∨
      ∃ known ∈ scope, imported? known name = some candidate := by
  cases scope with
  | none =>
      obtain same | language : candidate = name ∨ candidate = qualify "java.lang" name := by
        simpa [candidates] using h
      · exact .inl same
      · exact .inr (.inl ⟨_, language⟩)
  | some known =>
      simp only [candidates, List.mem_append, List.mem_map, List.mem_singleton,
        Option.mem_toList] at h
      rcases h with ((((⟨outer, -, rfl⟩ | imported) | ⟨package, -, rfl⟩) | same) |
        ⟨package, -, rfl⟩) | language
      · exact .inr (.inl ⟨outer, rfl⟩)
      · exact .inr (.inr ⟨known, rfl, imported⟩)
      · exact .inr (.inl ⟨package, rfl⟩)
      · exact .inl same
      · exact .inr (.inl ⟨package, rfl⟩)
      · exact .inr (.inl ⟨_, language⟩)

/-- All that a name may stand for has its simple name. -/
theorem simpleName_of_mem_candidates {scope : Option NameScope}
    (keyed : ∀ known ∈ scope, KeyedByLastSegment known.imports) (proper : "" ∉ segments name)
    (h : candidate ∈ candidates name scope) : simpleName candidate = simpleName name := by
  obtain rfl | ⟨outer, rfl⟩ | ⟨known, inside, imported⟩ := candidates_cases h
  · rfl
  · exact simpleName_qualify outer name
  · exact simpleName_of_imported? (keyed known inside) proper imported

theorem name_mem_candidates {scope : Option NameScope} {info : ClassInfo}
    (h : table.resolve name scope = some info) : info.name ∈ candidates name scope := by
  apply List.mem_of_find?_eq_some
  rw [← map_name_resolve, h, Option.map_some]

end ClassTable

namespace Source.Header

/-- A line of a file adds no import but under the last segment of what it imports. -/
theorem keyedByLastSegment_add {header : Header} (h : KeyedByLastSegment header.imports)
    (part : Tree) : KeyedByLastSegment (header.add part).imports := by
  rw [add]
  split
  · exact h
  · next name named =>
      split
      · exact h
      · split
        · split
          · exact h
          · exact Dict.forall_mem_insert h (getLast?_segments name)
        · exact h

/-- The imports of a file stand under the last segments of what they import. -/
theorem keyedByLastSegment_ofParts (parts : List Tree) :
    KeyedByLastSegment (ofParts parts).imports := by
  have start : KeyedByLastSegment ({} : Header).imports := by simp [KeyedByLastSegment]
  exact List.foldlRecOn (motive := fun header => KeyedByLastSegment header.imports) parts add start
    fun _ h part _ => keyedByLastSegment_add h part

end Source.Header

namespace ClassTable

/-- If the imports of a scope stand under the last segments of what they import, a name without
empty segments stands for an entry of the table with the same simple name, if it stands for
anything; and it does, if the table has the name itself. -/
theorem resolve_keeps_simple_name (table : ClassTable) {scope : Option NameScope} {name : String}
    (keyed : ∀ known ∈ scope, KeyedByLastSegment known.imports) (proper : "" ∉ segments name) :
    (∀ info, table.resolve name scope = some info →
      table.knows info.name = true ∧ table.superclass? info.name = some info.superclass ∧
        simpleName info.name = simpleName name) ∧
    (table.knows name = true → table.resolve name scope ≠ none) := by
  refine ⟨fun info resolved => ?_, fun known unresolved => ?_⟩
  · have own := superclass?_of_resolve resolved
    exact ⟨knows_of_superclass? own, own,
      simpleName_of_mem_candidates keyed proper (name_mem_candidates resolved)⟩
  · rw [knows_eq_false_of_resolve unresolved] at known
    cases known

def badImport : Source.Tree :=
  .node .importLine
    [.leaf ⟨.word, "import", ⟨1, 1⟩, "", []⟩,
     .node .name
       [.leaf ⟨.word, "acme", ⟨1, 8⟩, " ", []⟩, .leaf ⟨.symbol, ".", ⟨1, 12⟩, "", []⟩,
        .leaf ⟨.word, "Bad", ⟨1, 13⟩, "", []⟩],
     .leaf ⟨.symbol, ";", ⟨1, 16⟩, "", []⟩]

def badScope : NameScope := (Source.Header.ofParts [badImport]).scope ["Main"]

/-- A table that has a member of the imported class. -/
def badTable : ClassTable := withStandard [("acme.Bad.Input", some "java.lang.Exception")]

/-- The member is found through the import, and by its own name. -/
theorem badScope_keeps_simple_name :
    "" ∉ segments "Bad.Input" ∧
      (∃ info, badTable.resolve "Bad.Input" (some badScope) = some info ∧
        info.name = "acme.Bad.Input" ∧
          badTable.superclass? info.name = some (some "java.lang.Exception") ∧
          simpleName info.name = simpleName "Bad.Input") ∧
      badTable.resolve "acme.Bad.Input" (some badScope) ≠ none := by
  have keyed : ∀ known ∈ some badScope, KeyedByLastSegment known.imports := by
    rintro _ ⟨⟩
    exact Source.Header.keyedByLastSegment_ofParts [badImport]
  have proper : "" ∉ segments "Bad.Input" := by decide
  have resolved : badTable.resolve "Bad.Input" (some badScope) =
      some ⟨"acme.Bad.Input", some "java.lang.Exception"⟩ := by
    decide +kernel
  obtain ⟨-, superclass, simple⟩ := (resolve_keeps_simple_name badTable keyed proper).1 _ resolved
  have full : "" ∉ segments "acme.Bad.Input" := by decide
  have found := (resolve_keeps_simple_name badTable keyed full).2 (by decide +kernel)
  exact ⟨proper, ⟨_, resolved, rfl, superclass, simple⟩, found⟩

end ClassTable

end JavadocAudit

import JavadocAudit.Proofs.Source.DeclaredClasses

/-!
# Types around a declaration

Types and declarations are read off the same walk. The walk gives every part the types around it by
their qualified names, and these are the names under which the types are declared, since a type is
visited before its parts. The chain of a declaration therefore consists of classes that the table of
the file knows. Member types of this chain are the first candidates of a name, the innermost first,
so a member type is found whatever the header of the file says.
-/

namespace JavadocAudit

namespace ClassTable

variable {table : ClassTable} {name outer : String} {scope : NameScope} {front back : List String}

/-- A name stands for the member of that name of the innermost type that has one. -/
theorem resolve_member {superclass : Option String}
    (chain : scope.enclosing = front ++ outer :: back)
    (own : table.superclass? (qualify outer name) = some superclass)
    (unknown : ∀ inner ∈ back, table.knows (qualify inner name) = false) :
    table.resolve name (some scope) = some ⟨qualify outer name, superclass⟩ := by
  refine resolve_eq_some ?_ own
  have known := knows_of_superclass? own
  have inside : (back.reverse.map fun inner => qualify inner name).find? table.knows = none := by
    simpa using unknown
  simp only [candidates, chain, List.reverse_append, List.reverse_cons, List.map_append,
    List.append_assoc, List.find?_append, inside, Option.none_or]
  simp [known]

/-- Of the types that have a member of a name, one is the innermost. -/
theorem exists_innermost_member {enclosing : List String}
    (h : ∃ outer ∈ enclosing, table.knows (qualify outer name) = true) :
    ∃ front outer back, enclosing = front ++ outer :: back ∧
      table.knows (qualify outer name) = true ∧
        ∀ inner ∈ back, table.knows (qualify inner name) = false := by
  cases found : enclosing.reverse.find? fun outer => table.knows (qualify outer name) with
  | none =>
      obtain ⟨outer, inside, known⟩ := h
      exact absurd known (List.find?_eq_none.mp found outer (List.mem_reverse.mpr inside))
  | some outer =>
      obtain ⟨known, back, front, split, unknown⟩ := List.find?_eq_some_iff_append.mp found
      refine ⟨front.reverse, outer, back.reverse, ?_, known, by simpa using unknown⟩
      rw [← List.reverse_reverse enclosing, split]
      simp

end ClassTable

namespace Source

namespace Visit

variable {header : Header} {visit : Visit} {visits : List Visit} {names : List String}

theorem enclosing_of_mem_siblings {parent : Option Tree.Kind} {enclosing : List String}
    {before trees : List Tree} :
    ∀ visit ∈ siblings parent enclosing before trees, visit.enclosing = enclosing := by
  induction trees generalizing before with
  | nil => simp [siblings]
  | cons tree rest ih =>
      rw [siblings, List.forall_mem_cons]
      exact ⟨rfl, ih⟩

/-- A step of the walk adds the type that is visited to the types around its parts. -/
theorem enclosing_of_mem_children :
    ∀ child ∈ visit.children header,
      child.enclosing = visit.enclosing ++ (visit.typeName? header).toList := by
  obtain ⟨parent, children⟩ := visit.children_eq_siblings header
  rw [children]
  exact enclosing_of_mem_siblings

/-- The types around all parts that are to be visited have been visited. -/
def Enclosed (names : List String) (visits : List Visit) : Prop :=
  ∀ visit ∈ visits, visit.enclosing ⊆ names

theorem Enclosed.children_append (h : Enclosed names (visit :: visits)) :
    Enclosed (names ++ (visit.typeName? header).toList) (visit.children header ++ visits) := by
  obtain ⟨first, later⟩ := List.forall_mem_cons.mp h
  intro other member
  rcases List.mem_append.mp member with child | rest
  · rw [enclosing_of_mem_children other child]
    exact List.append_subset.mpr
      ⟨fun _ inside => List.mem_append_left _ (first inside), List.subset_append_right _ _⟩
  · exact fun _ inside => List.mem_append_left _ (later other rest inside)

/-- What the walk visits is enclosed by what it has visited and what was there before. -/
theorem enclosed_walk (header : Header) (h : Enclosed names visits) :
    Enclosed (names ++ (walk header visits).filterMap (typeName? header)) (walk header visits) := by
  fun_induction walk header visits generalizing names with
  | case1 => simp [Enclosed]
  | case2 visit rest ih =>
      have step := ih h.children_append
      have names_eq : (visit :: walk header (visit.children header ++ rest)).filterMap
          (typeName? header) = (visit.typeName? header).toList ++
            (walk header (visit.children header ++ rest)).filterMap (typeName? header) := by
        cases named : visit.typeName? header <;> simp [named]
      rw [names_eq, ← List.append_assoc]
      refine List.forall_mem_cons.mpr ⟨?_, step⟩
      intro outer inside
      exact List.mem_append_left _ (List.mem_append_left _ (h visit List.mem_cons_self inside))

theorem scope_of_declaration? {lines : Lines} {declaration : Declaration}
    (h : visit.declaration? lines header = some declaration) :
    declaration.signature.scope = some (header.scope visit.enclosing) := by
  unfold declaration? at h
  split at h
  · obtain ⟨signature, own, rfl⟩ := Option.map_eq_some_iff.mp h
    obtain ⟨name, -, equal⟩ := Option.bind_eq_some_iff.mp own
    obtain rfl := Option.some.inj equal
    rfl
  · cases h

end Visit

namespace File

variable {file : File} {declaration : Declaration} {base : ClassTable} {name : String}

theorem map_name_types (header : Header) (visits : List Visit) :
    (visits.filterMap (Visit.declaredType? header)).map DeclaredType.name =
      visits.filterMap (Visit.typeName? header) := by
  rw [List.map_filterMap]
  congr 1
  funext visit
  simp [Visit.declaredType?, Function.comp_def]

/-- The types around a declaration are types of the file. -/
theorem exists_enclosing_of_mem {lines : Lines} {parts : List Tree}
    (h : declaration ∈ (ofParts lines parts).declarations) :
    ∃ enclosing,
      declaration.signature.scope = some ((ofParts lines parts).header.scope enclosing) ∧
        enclosing ⊆ (ofParts lines parts).types.map DeclaredType.name := by
  obtain ⟨visit, visited, own⟩ := List.mem_filterMap.mp h
  refine ⟨visit.enclosing, Visit.scope_of_declaration? own, ?_⟩
  have start : Visit.Enclosed []
      (Visit.siblings none [] [] (Tree.allWithRemarks parts)) := by
    intro visit member
    simp [Visit.enclosing_of_mem_siblings visit member]
  have enclosed := Visit.enclosed_walk (Header.ofParts parts) start visit visited
  simpa [ofParts, map_name_types] using enclosed

/-- A class is declared in a file or known beforehand. -/
def HasClass (file : File) (base : ClassTable) (name : String) : Prop :=
  name ∈ file.types.map DeclaredType.name ∨ base.knows name = true

theorem knows_classTable_iff_hasClass :
    (file.classTable base).knows name = true ↔ file.HasClass base name := by
  rw [knows_classTable_iff, HasClass, or_comm]

/-- The types around a declaration of a file are types that the file declares and that its table
knows. A name in the declaration stands for the member of that name of the innermost of them that
has one, whatever package and imports a header gives. -/
theorem member_types_found_innermost_first (lines : Lines) (parts : List Tree) (base : ClassTable)
    (declared : declaration ∈ (ofParts lines parts).declarations) :
    ∃ enclosing,
      declaration.signature.scope = some ((ofParts lines parts).header.scope enclosing) ∧
      (∀ outer ∈ enclosing, outer ∈ (ofParts lines parts).types.map DeclaredType.name ∧
        ((ofParts lines parts).classTable base).knows outer = true) ∧
      ∀ name,
        (∃ outer ∈ enclosing, (ofParts lines parts).HasClass base (ClassTable.qualify outer name)) →
        ∃ front outer back superclass, enclosing = front ++ outer :: back ∧
          (ofParts lines parts).HasClass base (ClassTable.qualify outer name) ∧
          (∀ inner ∈ back,
            ¬ (ofParts lines parts).HasClass base (ClassTable.qualify inner name)) ∧
          ((ofParts lines parts).classTable base).superclass? (ClassTable.qualify outer name) =
            some superclass ∧
          ∀ header : Header,
            ((ofParts lines parts).classTable base).resolve name (some (header.scope enclosing)) =
              some ⟨ClassTable.qualify outer name, superclass⟩ := by
  obtain ⟨enclosing, scope, types⟩ := exists_enclosing_of_mem declared
  refine ⟨enclosing, scope, fun outer inside => ⟨types inside, ?_⟩, fun name has => ?_⟩
  · exact knows_classTable_iff.mpr (.inr (types inside))
  · simp only [← knows_classTable_iff_hasClass] at has ⊢
    obtain ⟨front, outer, back, chain, known, unknown⟩ := ClassTable.exists_innermost_member has
    obtain ⟨superclass, own⟩ := Option.isSome_iff_exists.mp known
    refine ⟨front, outer, back, superclass, chain, known, by simpa using unknown, own, ?_⟩
    intro header
    exact ClassTable.resolve_member chain own unknown

/-- A type and a type inside of it have a member of the same name, which is imported besides. -/
def nestedText : List Char :=
  "import q.E;class A\x7bclass E\x7b\x7dclass B\x7bclass E\x7b\x7dvoid f();\x7d\x7d".toList

/-- The names of the types of a file, and the types around each of its declarations. -/
def outline (file : File) : List String × List (Option (List String)) :=
  (file.types.map DeclaredType.name,
    file.declarations.map fun declaration => declaration.signature.scope.map NameScope.enclosing)

theorem outline_nestedText :
    ((Token.scan nestedText).bind parse?).map
        (fun parts => outline (ofParts (.ofText nestedText) parts)) =
      some (["A", "A.E", "A.B", "A.B.E"], [some ["A", "A.B"]]) := by
  decide +kernel

theorem member_found_in_nestedText :
    ∃ file, ofText? nestedText = some file ∧ ∃ declaration ∈ file.declarations, ∃ info,
      (file.classTable (.withStandard [])).resolve "E" declaration.signature.scope = some info ∧
        info.name = "A.B.E" := by
  obtain ⟨parts, read, shape⟩ := Option.map_eq_some_iff.mp outline_nestedText
  obtain ⟨tokens, scanned, parsed⟩ := Option.bind_eq_some_iff.mp read
  obtain ⟨types, scopes⟩ := Prod.mk.inj shape
  obtain ⟨declaration, single, around⟩ := List.map_eq_singleton_iff.mp scopes
  have declared : declaration ∈ (ofParts (.ofText nestedText) parts).declarations := by
    simp [single]
  obtain ⟨enclosing, scope, -, members⟩ :=
    member_types_found_innermost_first (.ofText nestedText) parts (.withStandard []) declared
  rw [scope] at around
  obtain rfl : enclosing = ["A", "A.B"] := Option.some.inj around
  have member : (ofParts (.ofText nestedText) parts).HasClass (.withStandard [])
      (ClassTable.qualify "A.B" "E") := by
    refine .inl ?_
    rw [types]
    decide
  obtain ⟨front, outer, back, superclass, chain, -, unknown, -, resolved⟩ :=
    members "E" ⟨"A.B", by simp, member⟩
  have inner : outer = "A.B" := by
    rcases back.eq_nil_or_concat with rfl | ⟨others, last, rfl⟩
    · have lasts := congrArg List.getLast? chain
      simpa using lasts.symm
    · -- The last type of the chain has the member, so it is not behind the one that was found.
      have lasts := congrArg List.getLast? chain
      rw [List.concat_eq_append, ← List.cons_append, ← List.append_assoc,
        List.getLast?_concat] at lasts
      obtain rfl : "A.B" = last := Option.some.inj lasts
      exact absurd member (unknown "A.B" (by simp))
  refine ⟨_, by simp [ofText?, scanned, parsed], declaration, declared,
    ⟨ClassTable.qualify outer "E", superclass⟩, ?_, ?_⟩
  · rw [scope]
    exact resolved _
  · have named : ClassTable.qualify "A.B" "E" = "A.B.E" := by decide
    rw [inner, named]

end File

end Source

end JavadocAudit

import JavadocAudit.Proofs.Source.ErasedName
import JavadocAudit.Proofs.Source.Subtrees

/-!
# Exceptions and superclasses of a file

Methods, constructors and types of a file are read off the nodes of its tree, in the order of the
text. The remarks that are put between the parts before that change neither which clause a node has
nor the name that is recorded for a type. But whatever is no token of a throws clause is recorded as
an exception, so remarks between the parts of the clause are recorded as well.

Therefore a throws clause is recorded by the names of its types if and only if no remark stands
between its parts and all of its types are plain, and an extends clause if and only if its type is
plain.
-/

namespace JavadocAudit.Source

namespace Tree

/-- Remarks do not change the name that is recorded for a type. -/
theorem typeName_withRemarks (type : Tree) : type.withRemarks.typeName = type.typeName := by
  have text : type.withRemarks.text = type.text := by
    rw [Tree.text, tokens_withRemarks, Tree.text]
  cases type with
  | leaf | remark => rfl
  | node kind parts =>
      rcases parts.eq_nil_or_concat with rfl | ⟨front, last, rfl⟩
      · rfl
      · rw [List.concat_eq_append] at text ⊢
        obtain ⟨front', split, tokens, starts⟩ := exists_withRemarks_concat kind front last
        rw [split] at text ⊢
        simp only [typeName, children, List.getLast?_concat, List.dropLast_concat, starts, text,
          tokens, isNode_withRemarks]

section Throws

/-- What stands among parts of a throws clause besides tokens: types, and remarks before parts. -/
def entries (parts : List Tree) : List Tree :=
  parts.flatMap fun part => part.leadingRemarks ++ [part].filter (isNode .type)

/-- No remark stands between the parts of a clause. -/
def isRemarkFree (clause : Tree) : Bool :=
  clause.children.tail.all fun part => part.leadingRemarks.isEmpty

variable (lines : Lines)

/-- An exception is recorded for a remark or a type of a throws clause, at its position. That of a
type is recorded by name if and only if the type is plain. -/
def IsRecordedAs : Tree → ThrownType → Prop
  | remark r, thrown =>
    thrown.line = some (lines.position r.point).line ∧
      thrown.column = some (lines.position r.point).column
  | type, thrown =>
    thrown.line = some (lines.position type.point).line ∧
      thrown.column = some (lines.position type.point).column ∧
      (thrown.name = type.erasedName ↔ type.isPlain = true)

/-- Exceptions are recorded for the remarks and types of a throws clause, in their order. They are
the types by their names if and only if no remark is among them and all of the types are plain. -/
structure RecordsTypes (clause : Tree) (exceptions : List ThrownType) : Prop where
  each : List.Forall₂ (IsRecordedAs lines) (entries clause.children.tail) exceptions
  names : exceptions.map ThrownType.name = (clause.all .type).map erasedName ↔
    clause.isRemarkFree = true ∧ ∀ type ∈ clause.all .type, type.isPlain = true

/-- Exceptions are recorded of the throws clause of a method or constructor. -/
def RecordsThrows (member : Tree) (exceptions : List ThrownType) : Prop :=
  match member.child? .throws with
  | none => exceptions = []
  | some clause => clause.RecordsTypes lines exceptions

variable {parts : List Tree} {exceptions : List ThrownType}

theorem forall₂_leadingRemarks (part : Tree) :
    List.Forall₂ (IsRecordedAs lines) part.leadingRemarks
      (part.leadingRemarks.filterMap (thrownType? lines)) := by
  unfold leadingRemarks
  split
  · next token _ =>
      induction token.remarks with
      | nil => exact .nil
      | cons r rest ih => exact .cons ⟨rfl, rfl⟩ ih
  · exact .nil

theorem isRecordedAs_type {type : Tree} (form : type.Every HasForm)
    (kind : type.isNode .type = true) :
    ∃ thrown, type.withRemarks.thrownType? lines = some thrown ∧
      type.IsRecordedAs lines thrown := by
  have named := typeName_eq_erasedName_iff form kind
  obtain ⟨parts, rfl⟩ := exists_of_isNode kind
  let position := lines.position (node .type parts).point
  refine ⟨⟨(node .type parts).typeName, some position.line, some position.column⟩, ?_, rfl, rfl,
    named⟩
  dsimp only [position]
  rw [← typeName_withRemarks, ← point_withRemarks]
  cases parts <;> rfl

/-- For every remark and type of a throws clause one exception is recorded, in their order. -/
theorem forall₂_entries (forms : ∀ part ∈ parts, part.Every HasForm)
    (kinds : TokensAndTypes parts) :
    List.Forall₂ (IsRecordedAs lines) (entries parts)
      ((allWithRemarks parts).filterMap (thrownType? lines)) := by
  induction parts with
  | nil => exact .nil
  | cons part rest ih =>
      obtain ⟨form, later⟩ := List.forall_mem_cons.mp forms
      obtain ⟨kind, others⟩ := List.forall_mem_cons.mp kinds
      rw [allWithRemarks, List.filterMap_append, entries, List.flatMap_cons, List.append_assoc]
      -- The remarks before the part come first, then the part itself if it is a type.
      refine List.rel_append (forall₂_leadingRemarks lines part) ?_
      rcases kind with ⟨token, rfl⟩ | kind
      · exact ih later others
      · obtain ⟨thrown, found, recorded⟩ := isRecordedAs_type lines form kind
        rw [List.filter_cons_of_pos kind, List.filterMap_cons_some found]
        exact .cons recorded (ih later others)

theorem length_entries (parts : List Tree) :
    (entries parts).length =
      (parts.flatMap leadingRemarks).length + (parts.filter (isNode .type)).length := by
  induction parts with
  | nil => rfl
  | cons part rest ih =>
      rw [entries, List.flatMap_cons, List.length_append, ← entries, ih, List.flatMap_cons,
        List.length_append, List.length_append, ← List.singleton_append (l := rest),
        List.filter_append, List.length_append]
      omega

theorem entries_eq_filter (h : parts.flatMap leadingRemarks = []) :
    entries parts = parts.filter (isNode .type) := by
  induction parts with
  | nil => rfl
  | cons part rest ih =>
      obtain ⟨first, later⟩ := List.append_eq_nil_iff.mp h
      rw [entries, List.flatMap_cons, ← entries, ih later, first, List.nil_append,
        ← List.filter_append, List.singleton_append]

/-- Exceptions that are recorded for types have their names if and only if the types are plain. -/
theorem map_name_eq_iff (types : ∀ type ∈ parts, type.isNode .type = true)
    (h : List.Forall₂ (IsRecordedAs lines) parts exceptions) :
    exceptions.map ThrownType.name = parts.map erasedName ↔
      ∀ type ∈ parts, type.isPlain = true := by
  induction h with
  | nil => simp
  | @cons type thrown _ _ recorded _ ih =>
      obtain ⟨kind, types⟩ := List.forall_mem_cons.mp types
      have own : thrown.name = type.erasedName ↔ type.isPlain = true := by
        obtain ⟨inner, rfl⟩ := exists_of_isNode kind
        exact recorded.2.2
      rw [List.map_cons, List.map_cons, List.cons.injEq, own, ih types, List.forall_mem_cons]

/-- The exceptions are the types by their names if and only if there are no remarks among them and
all types are plain. -/
theorem map_name_eq_filter_iff (h : List.Forall₂ (IsRecordedAs lines) (entries parts) exceptions) :
    exceptions.map ThrownType.name = (parts.filter (isNode .type)).map erasedName ↔
      parts.flatMap leadingRemarks = [] ∧
        ∀ type ∈ parts.filter (isNode .type), type.isPlain = true := by
  have types : ∀ type ∈ parts.filter (isNode .type), type.isNode .type = true :=
    fun type member => (List.mem_filter.mp member).2
  constructor
  · intro same
    have none : parts.flatMap leadingRemarks = [] := by
      -- A remark would be one exception more than there are types.
      have lengths := congrArg List.length same
      rw [List.length_map, List.length_map, ← h.length_eq, length_entries] at lengths
      exact List.eq_nil_of_length_eq_zero (by omega)
    rw [entries_eq_filter none] at h
    exact ⟨none, (map_name_eq_iff lines types h).mp same⟩
  · rintro ⟨none, plain⟩
    rw [entries_eq_filter none] at h
    exact (map_name_eq_iff lines types h).mpr plain

theorem isRemarkFree_iff {clause : Tree} :
    clause.isRemarkFree = true ↔ clause.children.tail.flatMap leadingRemarks = [] := by
  simp [isRemarkFree]

theorem recordsTypes_thrownTypes {clause : Tree} (form : clause.Every HasForm)
    (kind : clause.isNode .throws = true) :
    clause.RecordsTypes lines (clause.withRemarks.thrownTypes lines) := by
  obtain ⟨parts, rfl⟩ := exists_of_isNode kind
  obtain ⟨keyword, more, rfl, kinds⟩ :
    ∃ keyword more, parts = leaf keyword :: more ∧ TokensAndTypes more := form.self
  have forms : ∀ part ∈ more, part.Every HasForm :=
    fun part member => form.parts part (List.mem_cons_of_mem _ member)
  have each := forall₂_entries lines forms kinds
  refine ⟨each, ?_⟩
  rw [isRemarkFree_iff]
  exact map_name_eq_filter_iff lines each

theorem recordsThrows_of_hasForm {member : Tree} (form : member.Every HasForm) :
    member.RecordsThrows lines
      (((member.withRemarks.child? .throws).map (thrownTypes lines)).getD []) := by
  rw [RecordsThrows, child?_withRemarks]
  cases found : member.child? .throws with
  | none => rfl
  | some clause =>
      have own := form.parts clause (mem_children_of_child? found)
      exact recordsTypes_thrownTypes lines own (List.find?_some found)

end Throws

section Superclass

/-- The superclass is recorded of the extends clause of a type, by its name if and only if it is
plain. -/
def RecordsSuperclass (declared : Tree) (superclass : Option String) : Prop :=
  match declared.child? .superclass with
  | none => superclass = none
  | some clause => ∃ type name, clause.all .type = [type] ∧ superclass = some name ∧
    (name = type.erasedName ↔ type.isPlain = true)

theorem recordsSuperclass_of_hasForm {declared : Tree} (form : declared.Every HasForm) :
    declared.RecordsSuperclass ((declared.withRemarks.child? .superclass).bind fun clause =>
      clause.children.getLast?.map typeName) := by
  rw [RecordsSuperclass, child?_withRemarks]
  cases found : declared.child? .superclass with
  | none => rfl
  | some clause =>
      have own := form.parts clause (mem_children_of_child? found)
      obtain ⟨parts, rfl⟩ := exists_of_isNode (List.find?_some found)
      obtain ⟨keyword, type, rfl, isType⟩ :
        ∃ keyword type, parts = [leaf keyword, type] ∧ type.isNode .type = true := own.self
      obtain ⟨front, split, -⟩ := exists_withRemarks_concat .superclass [leaf keyword] type
      have typed := own.parts type (by simp [children])
      refine ⟨type, type.typeName, ?_, ?_, typeName_eq_erasedName_iff typed isType⟩
      · have bare : (leaf keyword).isNode .type = false := rfl
        simp [all, children, bare, isType]
      · rw [List.singleton_append] at split
        rw [Option.map_some, Option.bind_some, split, children, List.getLast?_concat,
          Option.map_some, typeName_withRemarks]

end Superclass

end Tree

namespace Visit

variable {lines : Lines} {header : Header}

section Clauses

variable {visit : Visit} {tree : Tree} (form : tree.Every Tree.HasForm)
  (visited : visit.tree = tree.withRemarks)
include form visited

theorem exists_declaredName?
    (kind : tree.isOneOf [.method, .constructor, .typeDeclaration] = true) :
    ∃ name, visit.tree.declaredName? = some name := by
  have named : ∃ part ∈ tree.children, part.isNode .name = true := by
    obtain ⟨kind, among, own⟩ := List.any_eq_true.mp kind
    obtain ⟨parts, rfl⟩ := Tree.exists_of_isNode own
    simp only [List.mem_cons, List.not_mem_nil, or_false] at among
    rcases among with rfl | rfl | rfl <;> exact form.self
  obtain ⟨name, found⟩ := Option.isSome_iff_exists.mp (List.find?_isSome.mpr named)
  refine ⟨name.withRemarks.text, ?_⟩
  have child : tree.child? .name = some name := found
  rw [Tree.declaredName?, visited, Tree.child?_withRemarks, child, Option.map_some, Option.map_some]

/-- Every method and constructor is declared, with what its throws clause records. -/
theorem exists_declaration? (kind : tree.isOneOf [.method, .constructor] = true) :
    ∃ declaration, visit.declaration? lines header = some declaration ∧
      tree.RecordsThrows lines declaration.signature.exceptions := by
  have own : (visit.tree.isNode .method || visit.tree.isNode .constructor) = true := by
    simpa [visited, Tree.isOneOf] using kind
  have among := Tree.isOneOf_of_subset
    (by simp : [.method, .constructor] ⊆ [.method, .constructor, .typeDeclaration]) kind
  obtain ⟨name, named⟩ := exists_declaredName? form visited among
  have signature := Tree.recordsThrows_of_hasForm lines form
  rw [← visited] at signature
  simp only [declaration?, own, if_true, Tree.signature?, named, Option.pure_def,
    Option.bind_eq_bind, Option.bind_some, Option.map_some]
  exact ⟨_, rfl, signature⟩

/-- Every type is declared, with what its extends clause records. -/
theorem exists_declaredType? (kind : tree.isOneOf [.typeDeclaration] = true) :
    ∃ declared, visit.declaredType? header = some declared ∧
      tree.RecordsSuperclass declared.superclass := by
  have own : visit.tree.isNode .typeDeclaration = true := by
    simpa [visited, Tree.isOneOf] using kind
  have among := Tree.isOneOf_of_subset
    (by simp : [.typeDeclaration] ⊆ [.method, .constructor, .typeDeclaration]) kind
  obtain ⟨name, named⟩ := exists_declaredName? form visited among
  have superclass := Tree.recordsSuperclass_of_hasForm form
  rw [← visited] at superclass
  simp only [declaredType?, typeName?, own, if_true, named, Option.map_some]
  exact ⟨_, rfl, superclass⟩

end Clauses

end Visit

namespace File

/-- A well-formed text gives one declaration for each method and constructor and one type for each
type in it, in the order of the text. For each remark and type in a throws clause there is an
exception, and the exceptions are the dotted names of the types if and only if no remark stands
between the parts of the clause and all of the types are plain. The superclass is the dotted name of
the type in the extends clause if and only if that type is plain. -/
theorem clauses_recorded_by_name_iff_plain {text : List Char} {tokens : List Token}
    {parts : List Tree} (scanned : Token.scan text = some tokens)
    (parsed : parse? tokens = some parts) :
    ∃ file, ofText? text = some file ∧
      List.Forall₂ (fun member declaration =>
          member.RecordsThrows (.ofText text) declaration.signature.exceptions)
        (Tree.nodesOf [.method, .constructor] parts) file.declarations ∧
      List.Forall₂ (fun declared type => declared.RecordsSuperclass type.superclass)
        (Tree.nodesOf [.typeDeclaration] parts) file.types := by
  have forms {kinds : List Tree.Kind} {tree : Tree} (h : tree ∈ Tree.nodesOf kinds parts) :
      tree.Every Tree.HasForm ∧ tree.isOneOf kinds = true := by
    obtain ⟨below, kind⟩ := List.mem_filter.mp h
    obtain ⟨part, inside, below⟩ := Tree.mem_subtreesOf.mp below
    exact ⟨(Tree.every_hasForm scanned parsed part inside).of_mem_subtrees tree below, kind⟩
  refine ⟨ofParts (.ofText text) parts, by simp [ofText?, scanned, parsed], ?_, ?_⟩
  · refine Visit.forall₂_nodesOf (fun visit other => ?_) fun tree member visit visited => ?_
    · exact if_neg (by simpa [Tree.isOneOf] using other)
    · exact Visit.exists_declaration? (forms member).1 visited (forms member).2
  · refine Visit.forall₂_nodesOf (fun visit other => ?_) fun tree member visit visited => ?_
    · have noType : visit.tree.isNode .typeDeclaration = false := by
        simpa [Tree.isOneOf] using other
      simp [Visit.declaredType?, Visit.typeName?, noType]
    · exact Visit.exists_declaredType? (forms member).1 visited (forms member).2

def thrownNames (file : File) : List (List String) :=
  file.declarations.map fun declaration => declaration.signature.exceptions.map ThrownType.name

/-- A qualified type with type arguments in its midst is thrown, and one with type arguments at its
end is extended. -/
def genericText : List Char :=
  "class A<T>extends p.B<T>\x7bvoid f()throws p.E<T>.F,G;\x7d".toList

/-- The names of the types in a clause, and whether they are to be recorded by these names. -/
def clauseNames (kind : Tree.Kind) (tree : Tree) : Option (List String × Bool) :=
  (tree.child? kind).map fun clause =>
    ((clause.all .type).map Tree.erasedName,
      clause.isRemarkFree && (clause.all .type).all Tree.isPlain)

theorem genericText_recorded_by_name :
    ∃ file, ofText? genericText = some file ∧ file.thrownNames = [["p.E.F", "G"]] ∧
      file.types.map DeclaredType.superclass = [some "p.B"] := by
  have shape : ((Token.scan genericText).bind parse?).map (fun parts =>
      ((Tree.nodesOf [.method, .constructor] parts).map (clauseNames .throws),
        (Tree.nodesOf [.typeDeclaration] parts).map (clauseNames .superclass))) =
      some ([some (["p.E.F", "G"], true)], [some (["p.B"], true)]) := by
    decide +kernel
  obtain ⟨parts, read, shape⟩ := Option.map_eq_some_iff.mp shape
  obtain ⟨tokens, scanned, parsed⟩ := Option.bind_eq_some_iff.mp read
  obtain ⟨throwing, extending⟩ := Prod.mk.inj shape
  obtain ⟨file, read, members, types⟩ :=
    clauses_recorded_by_name_iff_plain scanned parsed
  obtain ⟨member, single, throws⟩ := List.map_eq_singleton_iff.mp throwing
  obtain ⟨declared, only, extended⟩ := List.map_eq_singleton_iff.mp extending
  rw [single] at members
  rw [only] at types
  refine ⟨file, read, ?_, ?_⟩
  · obtain ⟨declaration, _, recorded, none, declarations⟩ := List.forall₂_cons_left_iff.mp members
    obtain rfl := List.forall₂_nil_left_iff.mp none
    obtain ⟨clause, found, names⟩ := Option.map_eq_some_iff.mp throws
    obtain ⟨names, plain⟩ := Prod.mk.inj names
    rw [Tree.RecordsThrows, found] at recorded
    rw [thrownNames, declarations, List.map_singleton, recorded.names.mpr (by simpa using plain),
      names]
  · obtain ⟨type, _, recorded, none, declaredTypes⟩ := List.forall₂_cons_left_iff.mp types
    obtain rfl := List.forall₂_nil_left_iff.mp none
    obtain ⟨clause, found, names⟩ := Option.map_eq_some_iff.mp extended
    obtain ⟨names, plain⟩ := Prod.mk.inj names
    rw [Tree.RecordsSuperclass, found] at recorded
    obtain ⟨superclass, name, alone, given, byName⟩ := recorded
    rw [alone] at names plain
    have isPlain : superclass.isPlain = true := by
      simp only [List.all_cons, List.all_nil, Bool.and_eq_true] at plain
      exact plain.2.1
    have erased : superclass.erasedName = "p.B" := by simpa using names
    rw [declaredTypes, List.map_singleton, given, byName.mpr isPlain, erased]

/-- A throws clause with an annotation, type arguments in two places and a remark. -/
def decoratedText : List Char :=
  "class A \x7b void f() throws @X E, B<C>.D<E>, /* or */ F \x7b\x7d \x7d".toList

theorem decorated_throws_recorded_as_written :
    (ofText? decoratedText).map thrownNames = some [["@X E", "B<C>.D", "/* or */", "F"]] ∧
      ((Token.scan decoratedText).bind parse?).map (fun parts =>
          (Tree.nodesOf [.method, .constructor] parts).map (clauseNames .throws)) =
        some [some (["E", "B.D", "F"], false)] := by
  decide +kernel

end File

end JavadocAudit.Source

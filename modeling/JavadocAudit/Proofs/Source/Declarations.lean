import JavadocAudit.Proofs.Source.Naming
import JavadocAudit.Proofs.Source.Token
import JavadocAudit.Source.File

/-!
# What a file declares stands where it says

A parser is relied on to be true to the text: tokens are pieces of the text and stand where they
say, and so do the remarks before them. This is kept on the way to the declarations, since the walk
visits nothing but parts of the trees that the parser gives. Therefore the comment of a declaration
is a piece of the text at its position, and the name of a parameter is a word of the text at the
position of the parameter.
-/

namespace JavadocAudit

/-- A comment is a piece of a text, at its position. -/
def Comment.StandsIn (text : List Char) (comment : Comment) : Prop :=
  ∃ content, comment = .ofText content comment.start ∧
    Source.Occurs Position.next ⟨1, 1⟩ text comment.start content.toList

/-- The name of a parameter is a word of a text, at the position of the parameter. -/
def Parameter.StandsIn (text : List Char) (parameter : Parameter) : Prop :=
  ∃ position : Position, parameter.line = some position.line ∧
    parameter.column = some position.column ∧
    Source.Occurs Position.next ⟨1, 1⟩ text position parameter.name.toList ∧
    ∀ c ∈ parameter.name.toList, Text.isIdentifierPart c = true

namespace Source

variable {text : List Char}

namespace Tree

/-- What a part of a tree says is true of a text: it is the piece of the text that starts at its
point, which counts line feeds and bytes. A parameter is named by one word. -/
def TrueTo (text : List Char) : Tree → Prop
  | leaf token => token.StandsIn ⟨0, 0⟩ text
  | remark r => Occurs Point.next ⟨0, 0⟩ text r.point r.text.toList
  | node kind trees => (node kind trees).IsNamed

theorem every_trueTo_of_parse? {tokens : List Token} {trees : List Tree}
    (h : parse? tokens = some trees) (stand : ∀ token ∈ tokens, token.StandsIn ⟨0, 0⟩ text) :
    ∀ tree ∈ trees, tree.Every (TrueTo text) := by
  have builds {part : Construct.Part} (named : part.Builds Construct.rule IsNamed) :
      part.Builds Construct.rule (TrueTo text) := by
    refine Rule.Builds.mono ?_ named
    exact fun _ _ holds => holds
  exact every_of_parse? h (fun construct => builds (Construct.builds_isNamed_rule construct))
    (builds Construct.builds_isNamed_unit) stand

section Remarks

theorem mem_tokensOf {trees : List Tree} {token : Token} :
    token ∈ tokensOf trees ↔ ∃ tree ∈ trees, token ∈ tree.tokens := by
  induction trees with
  | nil => simp [tokensOf]
  | cons tree rest ih => simp [tokensOf, ih]

/-- The tokens of a tree are its parts. -/
theorem Every.of_mem_tokens {P : Tree → Prop} {tree : Tree} (h : tree.Every P) :
    ∀ token ∈ tree.tokens, P (.leaf token) := by
  induction h with
  | @intro tree self parts ih =>
      intro token member
      cases tree with
      | leaf own =>
          obtain rfl := List.mem_singleton.mp member
          exact self
      | remark r => cases member
      | node kind trees =>
          obtain ⟨child, inside, member⟩ := mem_tokensOf.mp member
          exact ih child inside token member

theorem mem_allWithRemarks {trees : List Tree} {part : Tree} (h : part ∈ allWithRemarks trees) :
    ∃ tree ∈ trees, part = tree.withRemarks ∨ part ∈ tree.leadingRemarks := by
  induction trees with
  | nil => cases h
  | cons tree rest ih =>
      rw [allWithRemarks, List.mem_append, List.mem_cons] at h
      rcases h with leading | rfl | later
      · exact ⟨tree, List.mem_cons_self, .inr leading⟩
      · exact ⟨tree, List.mem_cons_self, .inl rfl⟩
      · obtain ⟨other, member, which⟩ := ih later
        exact ⟨other, List.mem_cons_of_mem _ member, which⟩

theorem exists_of_mem_leadingRemarks {tree part : Tree} (h : part ∈ tree.leadingRemarks) :
    ∃ token ∈ tree.tokens, ∃ r ∈ token.remarks, part = remark r := by
  unfold leadingRemarks at h
  split at h
  · next token first =>
      obtain ⟨r, member, rfl⟩ := List.mem_map.mp h
      exact ⟨token, List.mem_of_mem_head? first, r, member, rfl⟩
  · cases h

@[simp] theorem isNode_withRemarks (tree : Tree) (kind : Kind) :
    tree.withRemarks.isNode kind = tree.isNode kind := by
  cases tree with
  | leaf | remark => rfl
  | node own children => cases children <;> rfl

theorem find?_leadingRemarks (tree : Tree) (kind : Kind) :
    tree.leadingRemarks.find? (isNode kind) = none := by
  refine List.find?_eq_none.mpr fun part member => ?_
  obtain ⟨_, _, r, _, rfl⟩ := exists_of_mem_leadingRemarks member
  simp [isNode]

theorem find?_allWithRemarks (trees : List Tree) (kind : Kind) :
    (allWithRemarks trees).find? (isNode kind) = (trees.find? (isNode kind)).map withRemarks := by
  induction trees with
  | nil => rfl
  | cons tree rest ih =>
      rw [allWithRemarks, List.find?_append, find?_leadingRemarks, Option.none_or]
      cases found : tree.isNode kind with
      | true => simp [found]
      | false => simp [found, ih]

/-- Remarks do not change which part of a kind is the first. -/
theorem child?_withRemarks (tree : Tree) (kind : Kind) :
    tree.withRemarks.child? kind = (tree.child? kind).map withRemarks := by
  cases tree with
  | leaf | remark => rfl
  | node own children =>
      cases children with
      | nil => rfl
      | cons first rest =>
          have whole := find?_allWithRemarks (first :: rest) kind
          rw [allWithRemarks, List.find?_append, find?_leadingRemarks, Option.none_or] at whole
          exact whole

theorem IsNamed.withRemarks {tree : Tree} (h : tree.IsNamed) : tree.withRemarks.IsNamed := by
  intro kind name found
  rw [isNode_withRemarks, isNode_withRemarks] at kind
  change tree.withRemarks.child? .name = some name at found
  rw [child?_withRemarks] at found
  obtain ⟨bare, first, rfl⟩ := Option.map_eq_some_iff.mp found
  obtain ⟨token, rfl, word⟩ := h kind bare first
  exact ⟨token, rfl, word⟩

theorem every_of_mem_leadingRemarks {tree part : Tree} (h : tree.Every (TrueTo text))
    (member : part ∈ tree.leadingRemarks) : part.Every (TrueTo text) := by
  obtain ⟨token, own, r, before, rfl⟩ := exists_of_mem_leadingRemarks member
  exact .remark ((h.of_mem_tokens token own).remarks r before)

theorem every_withRemarks {tree : Tree} (h : tree.Every (TrueTo text)) :
    tree.withRemarks.Every (TrueTo text) := by
  induction h with
  | @intro tree self parts ih =>
      cases tree with
      | leaf | remark => exact .intro self parts
      | node kind children =>
          cases children with
          | nil => exact .intro self parts
          | cons first rest =>
              -- The remarks before the first child stay outside of the node.
              refine .intro (IsNamed.withRemarks self) ?_
              intro child member
              rcases List.mem_cons.mp member with rfl | member
              · exact ih first List.mem_cons_self
              · obtain ⟨tree, inRest, rfl | leading⟩ := mem_allWithRemarks member
                · exact ih tree (List.mem_cons_of_mem _ inRest)
                · exact every_of_mem_leadingRemarks (parts tree (List.mem_cons_of_mem _ inRest))
                    leading

theorem every_allWithRemarks {trees : List Tree} (h : ∀ tree ∈ trees, tree.Every (TrueTo text)) :
    ∀ part ∈ allWithRemarks trees, part.Every (TrueTo text) := by
  intro part member
  obtain ⟨tree, inTrees, rfl | leading⟩ := mem_allWithRemarks member
  · exact every_withRemarks (h tree inTrees)
  · exact every_of_mem_leadingRemarks (h tree inTrees) leading

end Remarks

section Parameters

theorem mem_children_of_child? {tree part : Tree} {kind : Kind} (h : tree.child? kind = some part) :
    part ∈ tree.children :=
  List.mem_of_find?_eq_some h

theorem Every.isNamed {tree : Tree} (h : tree.Every (TrueTo text)) : tree.IsNamed := by
  cases tree with
  | leaf | remark => simp [IsNamed, isNode]
  | node kind trees => exact h.self

theorem standsIn_of_namedParameter? {tree : Tree} (h : tree.Every (TrueTo text))
    (kind : tree.isNode .parameter = true ∨ tree.isNode .typeParameter = true) {isType : Bool}
    {parameter : Parameter} (found : tree.namedParameter? (.ofText text) isType = some parameter) :
    parameter.StandsIn text := by
  obtain ⟨name, first, rfl⟩ := Option.map_eq_some_iff.mp found
  obtain ⟨token, rfl, word⟩ := h.isNamed kind name first
  have whole := h.parts _ (mem_children_of_child? first)
  have stands : token.StandsIn ⟨0, 0⟩ text := (whole.parts (leaf token) List.mem_cons_self).self
  exact ⟨_, rfl, rfl, stands.occurs.position, stands.word word⟩

theorem standsIn_of_mem_parameterList {list : Option Tree} {kind : Kind} {isType : Bool}
    (h : ∀ tree, list = some tree → tree.Every (TrueTo text))
    (own : kind = .parameter ∨ kind = .typeParameter) :
    ∀ parameter ∈ parameterList (.ofText text) list kind isType, parameter.StandsIn text := by
  intro parameter member
  cases list with
  | none => cases member
  | some list =>
      obtain ⟨tree, inList, found⟩ := List.mem_filterMap.mp member
      obtain ⟨inside, ofKind⟩ := List.mem_filter.mp inList
      have every := (h list rfl).parts tree inside
      rcases own with rfl | rfl
      · exact standsIn_of_namedParameter? every (.inl ofKind) found
      · exact standsIn_of_namedParameter? every (.inr ofKind) found

theorem standsIn_of_signature? {tree : Tree} (h : tree.Every (TrueTo text)) {inInterface : Bool}
    {scope : NameScope} {signature : Signature}
    (found : tree.signature? (.ofText text) inInterface scope = some signature) :
    ∀ parameter ∈ signature.parameters ++ signature.typeParameters, parameter.StandsIn text := by
  obtain ⟨name, -, equal⟩ := Option.bind_eq_some_iff.mp found
  obtain rfl := Option.some.inj equal
  have every {kind : Kind} (list : Tree) (child : tree.child? kind = some list) :
      list.Every (TrueTo text) :=
    h.parts list (mem_children_of_child? child)
  intro parameter member
  rcases List.mem_append.mp member with member | member
  · exact standsIn_of_mem_parameterList every (.inl rfl) parameter member
  · exact standsIn_of_mem_parameterList every (.inr rfl) parameter member

end Parameters

end Tree

namespace Visit

/-- A property holds of the part that is visited and of what stands before it, at any depth. -/
def Every (P : Tree → Prop) (visit : Visit) : Prop :=
  visit.tree.Every P ∧ ∀ tree ∈ visit.before, tree.Every P

variable {P : Tree → Prop}

theorem every_of_mem_siblings {parent : Option Tree.Kind} {enclosing : List String}
    {before trees : List Tree} (hb : ∀ tree ∈ before, tree.Every P)
    (ht : ∀ tree ∈ trees, tree.Every P) :
    ∀ visit ∈ siblings parent enclosing before trees, visit.Every P := by
  induction trees generalizing before with
  | nil => simp [siblings]
  | cons tree rest ih =>
      obtain ⟨first, later⟩ := List.forall_mem_cons.mp ht
      rw [siblings, List.forall_mem_cons]
      exact ⟨⟨first, hb⟩, ih (List.forall_mem_cons.mpr ⟨first, hb⟩) later⟩

theorem every_of_mem_children {header : Header} {visit : Visit} (h : visit.Every P) :
    ∀ child ∈ visit.children header, child.Every P := by
  obtain ⟨parent, children⟩ := visit.children_eq_siblings header
  rw [children]
  exact every_of_mem_siblings (by simp) h.1.parts

/-- The walk visits nothing but parts of what it starts from. -/
theorem every_of_mem_walk {header : Header} {visits : List Visit}
    (h : ∀ visit ∈ visits, visit.Every P) : ∀ visit ∈ walk header visits, visit.Every P := by
  fun_induction walk header visits with
  | case1 => simp
  | case2 visit rest ih =>
      obtain ⟨first, later⟩ := List.forall_mem_cons.mp h
      refine List.forall_mem_cons.mpr ⟨first, ih ?_⟩
      exact List.forall_mem_append.mpr ⟨every_of_mem_children first, later⟩

theorem standsIn_of_comment? {visit : Visit} (h : visit.Every (Tree.TrueTo text))
    {comment : Comment} (found : visit.comment? (.ofText text) = some comment) :
    comment.StandsIn text := by
  unfold comment? at found
  split at found
  · next r nearest =>
      split at found
      · obtain rfl := Option.some.inj found
        have before : Tree.remark r ∈ visit.before :=
          (List.dropWhile_sublist _).subset (List.mem_of_mem_head? nearest)
        exact ⟨r.text, rfl, Occurs.position (h.2 _ before).self⟩
      · cases found
  · cases found

end Visit

/-- The comment and the parameters of a declaration stand in a text where they say. -/
structure Declaration.StandsIn (text : List Char) (declaration : Declaration) : Prop where
  comment : ∀ comment, declaration.comment = some comment → comment.StandsIn text
  parameters : ∀ parameter ∈
    declaration.signature.parameters ++ declaration.signature.typeParameters,
    parameter.StandsIn text

theorem Visit.standsIn_of_declaration? {header : Header} {visit : Visit}
    (h : visit.Every (Tree.TrueTo text)) {declaration : Declaration}
    (found : visit.declaration? (.ofText text) header = some declaration) :
    declaration.StandsIn text := by
  unfold declaration? at found
  split at found
  · obtain ⟨signature, own, rfl⟩ := Option.map_eq_some_iff.mp found
    exact ⟨fun comment equal => standsIn_of_comment? h equal, Tree.standsIn_of_signature? h.1 own⟩
  · cases found

/-- Everything that a parser makes out in a text is true to the text. -/
def Parse.TrueTo (text : List Char) (parse : Parse) : Prop :=
  ∀ tree ∈ parse.parts, tree.Every (Tree.TrueTo text)

theorem Parser.strict_trueTo (text : List Char) : (Parser.strict text).TrueTo text := by
  unfold Parser.strict
  split
  · next trees parsed =>
      obtain ⟨tokens, scanned, parsed⟩ := Option.bind_eq_some_iff.mp parsed
      exact Tree.every_trueTo_of_parse? parsed (Token.standsIn_of_scan scanned)
  · nofun

/-- What a text declares stands in the text where it says, if the parser is true to the text. -/
theorem File.standsIn_of_trueTo {parser : Parser} (h : (parser text).TrueTo text) :
    ∀ declaration ∈ (File.ofText parser text).declarations, declaration.StandsIn text := by
  intro declaration member
  obtain ⟨visit, visited, found⟩ := List.mem_filterMap.mp member
  have every := Visit.every_of_mem_walk
    (Visit.every_of_mem_siblings (by simp) (Tree.every_allWithRemarks h)) visit visited
  exact Visit.standsIn_of_declaration? every found

end Source

end JavadocAudit

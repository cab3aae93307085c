import JavadocAudit.Proofs.Source.Derivation
import JavadocAudit.Source.Grammar.Construct

/-!
# The names of parameters

The first name in a parameter or type parameter is a single word, the name that it declares. Other
names may follow in the initializer of a parameter, but none stands before: annotations, modifiers
and types keep the names in them in nodes of their own.

Only two constructs build parameters. That all others build none is computed.
-/

namespace JavadocAudit.Source

/-- The first name among trees is a single word. -/
def Tree.FirstNameIsWord (trees : List Tree) : Prop :=
  ∀ name, trees.find? (isNode .name) = some name →
    ∃ token, name = node .name [leaf token] ∧ token.kind = .word

/-- A parameter or type parameter is named by a single word. -/
def Tree.IsNamed (tree : Tree) : Prop :=
  tree.isNode .parameter = true ∨ tree.isNode .typeParameter = true → FirstNameIsWord tree.children

namespace Rule

def buildsOnly {ι : Type} (test : Tree.Kind → Bool) : Rule ι → Bool
  | nothing | terminal _ | absent _ | ref _ => true
  | both first second | either first second => first.buildsOnly test && second.buildsOnly test
  | many rule => rule.buildsOnly test
  | node kind rule => test kind && rule.buildsOnly test

theorem builds_of_buildsOnly {ι : Type} {grammar : ι → Rule ι} {P : Tree → Prop}
    {test : Tree.Kind → Bool} (holds : ∀ kind trees, test kind = true → P (.node kind trees))
    {rule : Rule ι} (h : rule.buildsOnly test = true) : rule.Builds grammar P := by
  induction rule with
  | nothing | terminal | absent | ref => trivial
  | both first second ihFirst ihSecond | either first second ihFirst ihSecond =>
      rw [buildsOnly, Bool.and_eq_true] at h
      exact ⟨ihFirst h.1, ihSecond h.2⟩
  | many rule ih => exact ih h
  | node kind rule ih =>
      rw [buildsOnly, Bool.and_eq_true] at h
      exact ⟨fun _ trees _ _ => holds kind trees h.1, ih h.2⟩

end Rule

namespace Construct

open JavadocAudit.Source.Rule JavadocAudit.Source.Tree

section Names

def Nameless (trees : List Tree) : Prop := ∀ tree ∈ trees, tree.isNode .name = false

theorem Nameless.append {xs ys : List Tree} (hx : Nameless xs) (hy : Nameless ys) :
    Nameless (xs ++ ys) :=
  fun tree member => (List.mem_append.mp member).elim (hx tree) (hy tree)

theorem Nameless.firstNameIsWord_append {xs ys : List Tree} (hx : Nameless xs)
    (hy : FirstNameIsWord ys) : FirstNameIsWord (xs ++ ys) := by
  intro name found
  have none_before : xs.find? (isNode .name) = none :=
    List.find?_eq_none.mpr fun tree member => by simp [hx tree member]
  rw [List.find?_append, none_before, Option.none_or] at found
  exact hy name found

/-- The first of the trees is a name of a single word. -/
def StartsWithName (trees : List Tree) : Prop :=
  ∃ token more, trees = .node .name [.leaf token] :: more ∧ token.kind = .word

theorem StartsWithName.append {xs : List Tree} (h : StartsWithName xs) (ys : List Tree) :
    StartsWithName (xs ++ ys) := by
  obtain ⟨token, more, rfl, word⟩ := h
  exact ⟨token, more ++ ys, rfl, word⟩

theorem StartsWithName.firstNameIsWord {xs : List Tree} (h : StartsWithName xs) :
    FirstNameIsWord xs := by
  obtain ⟨token, more, rfl, word⟩ := h
  intro name found
  cases found
  exact ⟨token, rfl, word⟩

theorem yields_startsWithName_both {first : Part} (h : Yields rule first StartsWithName)
    (more : Part) : Yields rule (both first more) StartsWithName :=
  .both h (.anything more) fun _ ys front _ => front.append ys

theorem yields_firstNameIsWord_both {first : Part} (h : Yields rule first StartsWithName)
    (more : Part) : Yields rule (both first more) FirstNameIsWord :=
  .both h (.anything more) fun _ ys front _ => (front.append ys).firstNameIsWord

theorem yields_startsWithName {t : Terminal}
    (only : ∀ token, t.accepts token = true → token.kind = .word) :
    Yields rule (node .name (terminal t)) StartsWithName :=
  .node (.terminal fun token fits => ⟨token, [], rfl, only token fits⟩)

theorem yields_startsWithName_declaredName : Yields rule declaredName StartsWithName :=
  yields_startsWithName fun token h => by simpa [Terminal.accepts] using h

theorem yields_startsWithName_identifier : Yields rule (node .name identifier) StartsWithName :=
  yields_startsWithName fun token h => by
    simp only [Terminal.accepts, Bool.and_eq_true, decide_eq_true_eq] at h
    exact h.1

/-- What a construct in a node of its own gives is no name. -/
theorem yields_nameless_node {kind : Tree.Kind} (other : kind ≠ .name) (inner : Part) :
    Yields rule (node kind inner) Nameless := by
  refine .node ?_
  intro tokens trees rest _ tree member
  obtain rfl := List.mem_singleton.mp member
  simp [isNode, other]

theorem yields_nameless_terminal (t : Terminal) : Yields rule (terminal t) Nameless := by
  refine .terminal ?_
  intro token _ tree member
  obtain rfl := List.mem_singleton.mp member
  rfl

theorem yields_nameless_nothing : Yields rule nothing Nameless :=
  .nothing (by simp [Nameless])

theorem yields_nameless_many {inner : Part} (h : Yields rule inner Nameless) :
    Yields rule (many inner) Nameless :=
  .many (by simp [Nameless]) h fun _ _ => Nameless.append

theorem yields_both_of_nameless {first second : Part} (front : Yields rule first Nameless)
    (back : Yields rule second FirstNameIsWord) : Yields rule (both first second) FirstNameIsWord :=
  .both front back fun _ _ => Nameless.firstNameIsWord_append

theorem yields_nameless_annotations : Yields rule (many (ref .annot)) Nameless :=
  yields_nameless_many (.ref (yields_nameless_node (by decide) _))

theorem yields_nameless_modifiers : Yields rule (opt (ref .modifiers)) Nameless :=
  .either (.ref (yields_nameless_node (by decide) _)) yields_nameless_nothing

theorem yields_nameless_plainType : Yields rule (ref .plainType) Nameless :=
  .ref (yields_nameless_node (by decide) _)

end Names

/-- A kind of node that is neither a parameter nor a type parameter. -/
def isNoParameter (kind : Tree.Kind) : Bool := kind ≠ .parameter && kind ≠ .typeParameter

theorem isNamed_of_isNoParameter (kind : Tree.Kind) (trees : List Tree)
    (h : isNoParameter kind = true) : (Tree.node kind trees).IsNamed := by
  rintro (parameter | parameter)
  all_goals simp_all [isNoParameter, isNode]

theorem yields_isNamed {kind : Tree.Kind} {inner : Part}
    (h : Yields rule inner FirstNameIsWord) :
    Yields rule inner fun trees => (Tree.node kind trees).IsNamed :=
  fun tokens trees rest reads _ => h tokens trees rest reads

theorem builds_isNamed_of_buildsOnly {part : Part} (h : part.buildsOnly isNoParameter = true) :
    part.Builds rule IsNamed :=
  builds_of_buildsOnly isNamed_of_isNoParameter h

theorem builds_isNamed_parameter : parameter.Builds rule IsNamed := by
  refine ⟨yields_isNamed (.either ?_ ?_), builds_isNamed_of_buildsOnly (by decide)⟩
  · refine yields_both_of_nameless yields_nameless_modifiers ?_
    refine yields_both_of_nameless yields_nameless_plainType ?_
    refine yields_both_of_nameless (yields_nameless_terminal _) ?_
    refine yields_both_of_nameless yields_nameless_annotations ?_
    -- An initializer behind the name may hold further names, but the declared one is the first.
    have declarator : Yields rule (ref .declarator) StartsWithName :=
      .ref (yields_startsWithName_both yields_startsWithName_declaredName _)
    exact yields_firstNameIsWord_both declarator _
  · refine yields_both_of_nameless yields_nameless_modifiers ?_
    refine yields_both_of_nameless yields_nameless_plainType ?_
    exact yields_firstNameIsWord_both yields_startsWithName_declaredName _

theorem builds_isNamed_parameters : (rule .parameters).Builds rule IsNamed := by
  refine ⟨fun _ trees _ _ => isNamed_of_isNoParameter _ trees rfl, ?_⟩
  have list : (commaSep parameter).Builds rule IsNamed :=
    ⟨builds_isNamed_parameter, trivial, builds_isNamed_parameter⟩
  have receivers : receiver.Builds rule IsNamed := builds_isNamed_of_buildsOnly (by decide)
  simp [parens, builds_seq, builds_oneOf, opt, sym, ahead, Builds, list, receivers]

theorem builds_isNamed_typeParameters : (rule .typeParameters).Builds rule IsNamed := by
  have named : (node .typeParameter (seq
      [many (ref .annot), node .name identifier,
        opt (seq [word "extends", sepBy (ref .type) (sym "&")])])).Builds rule IsNamed := by
    refine ⟨yields_isNamed ?_, builds_isNamed_of_buildsOnly (by decide)⟩
    refine yields_both_of_nameless yields_nameless_annotations ?_
    exact yields_firstNameIsWord_both yields_startsWithName_identifier _
  refine ⟨fun _ trees _ _ => isNamed_of_isNoParameter _ trees rfl, ?_⟩
  simp only [builds_seq, List.forall_mem_cons]
  exact ⟨trivial, ⟨named, trivial, named⟩, trivial, by simp⟩

/-- No construct builds a parameter or type parameter whose first name is anything but a word. -/
theorem builds_isNamed_rule (construct : Construct) : (rule construct).Builds rule IsNamed := by
  by_cases params : construct = .parameters
  · exact params ▸ builds_isNamed_parameters
  · by_cases typeParams : construct = .typeParameters
    · exact typeParams ▸ builds_isNamed_typeParameters
    · apply builds_isNamed_of_buildsOnly
      cases construct <;> first | rfl | contradiction

theorem builds_isNamed_unit : unit.Builds rule IsNamed := builds_isNamed_of_buildsOnly (by decide)

end Construct

/-- What holds of the tokens of a source text, and of all nodes that the constructs build, holds of
all parts of the trees of the text. -/
theorem Tree.every_of_parse? {P : Tree → Prop} {tokens : List Token} {trees : List Tree}
    (h : parse? tokens = some trees)
    (built : ∀ construct, (Construct.rule construct).Builds Construct.rule P)
    (whole : Construct.unit.Builds Construct.rule P) (given : ∀ token ∈ tokens, P (leaf token)) :
    ∀ tree ∈ trees, tree.Every P := by
  unfold parse? at h
  split at h
  · next accepted =>
      cases h
      exact (Rule.reads_of_run accepted).every built whole given
  · cases h

end JavadocAudit.Source

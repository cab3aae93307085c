import JavadocAudit.Proofs.Source.Declarations
import JavadocAudit.Proofs.Source.TypeParts
import Mathlib.Data.List.Forall2

/-!
# Nodes in the order of the text

The walk visits the parts of trees at any depth, each before its own parts, and so in the order of
the text. The trees that it is given have remarks put in between. These add no tokens and no nodes,
so the nodes of some kinds are the same as without remarks, one by one. What is found at such nodes
on the walk is therefore found once for each of them, in their order.
-/

namespace JavadocAudit.Source

namespace Tree

section Remarks

theorem tokensOf_leadingRemarks (tree : Tree) : tokensOf tree.leadingRemarks = [] := by
  refine List.eq_nil_iff_forall_not_mem.mpr fun token member => ?_
  obtain ⟨part, leading, inside⟩ := mem_tokensOf.mp member
  obtain ⟨_, _, r, _, rfl⟩ := exists_of_mem_leadingRemarks leading
  cases inside

mutual

theorem tokens_withRemarks (tree : Tree) : tree.withRemarks.tokens = tree.tokens := by
  match tree with
  | leaf _ | remark _ | node _ [] => rfl
  | node kind (first :: rest) =>
      rw [withRemarks, tokens, tokensOf, tokens_withRemarks first, tokensOf_allWithRemarks rest,
        tokens, tokensOf]

theorem tokensOf_allWithRemarks (trees : List Tree) :
    tokensOf (allWithRemarks trees) = tokensOf trees := by
  match trees with
  | [] => rfl
  | tree :: rest =>
      rw [allWithRemarks, tokensOf_append, tokensOf_leadingRemarks, List.nil_append, tokensOf,
        tokens_withRemarks tree, tokensOf_allWithRemarks rest, tokensOf]

end

theorem point_withRemarks (tree : Tree) : tree.withRemarks.point = tree.point := by
  rw [point, tokens_withRemarks, point]

theorem allWithRemarks_append (front back : List Tree) :
    allWithRemarks (front ++ back) = allWithRemarks front ++ allWithRemarks back := by
  induction front with
  | nil => rfl
  | cons tree rest ih => simp [allWithRemarks, ih]

/-- The last part of a node stays the last one, and no tokens are put before it. -/
theorem exists_withRemarks_concat (kind : Kind) (front : List Tree) (last : Tree) :
    ∃ front', (node kind (front ++ [last])).withRemarks = node kind (front' ++ [last.withRemarks]) ∧
      tokensOf front' = tokensOf front ∧
      ∀ own, (front' ++ [last.withRemarks]).head?.any (isNode own) =
        (front ++ [last]).head?.any (isNode own) := by
  cases front with
  | nil => exact ⟨[], rfl, rfl, fun own => by simp⟩
  | cons first rest =>
      refine ⟨first.withRemarks :: (allWithRemarks rest ++ last.leadingRemarks), ?_, ?_, ?_⟩
      · simp [withRemarks, allWithRemarks_append, allWithRemarks]
      · rw [tokensOf, tokensOf_append, tokens_withRemarks, tokensOf_allWithRemarks,
          tokensOf_leadingRemarks, List.append_nil, tokensOf]
      · intro own
        simp

end Remarks

section Subtrees

mutual

/-- A tree and its parts at any depth, each before its own parts. -/
def subtrees : Tree → List Tree
  | node kind parts => node kind parts :: subtreesOf parts
  | tree => [tree]

/-- Trees and their parts at any depth. -/
def subtreesOf : List Tree → List Tree
  | [] => []
  | tree :: rest => tree.subtrees ++ subtreesOf rest

end

theorem subtrees_eq (tree : Tree) : tree.subtrees = tree :: subtreesOf tree.children := by
  cases tree <;> rfl

theorem subtreesOf_append (front back : List Tree) :
    subtreesOf (front ++ back) = subtreesOf front ++ subtreesOf back := by
  induction front with
  | nil => rfl
  | cons tree rest ih => rw [List.cons_append, subtreesOf, subtreesOf, ih, List.append_assoc]

theorem mem_subtreesOf {trees : List Tree} {part : Tree} :
    part ∈ subtreesOf trees ↔ ∃ tree ∈ trees, part ∈ tree.subtrees := by
  induction trees with
  | nil => simp [subtreesOf]
  | cons tree rest ih => simp [subtreesOf, ih]

theorem Every.of_mem_subtrees {P : Tree → Prop} {tree : Tree} (h : tree.Every P) :
    ∀ part ∈ tree.subtrees, part.Every P := by
  induction h with
  | @intro tree self parts ih =>
      rw [subtrees_eq, List.forall_mem_cons]
      refine ⟨.intro self parts, fun part member => ?_⟩
      obtain ⟨child, inside, member⟩ := mem_subtreesOf.mp member
      exact ih child inside part member

def isOneOf (kinds : List Kind) (tree : Tree) : Bool := kinds.any fun kind => tree.isNode kind

theorem isOneOf_of_subset {kinds more : List Kind} {tree : Tree} (h : kinds ⊆ more)
    (own : tree.isOneOf kinds = true) : tree.isOneOf more = true := by
  obtain ⟨kind, member, isKind⟩ := List.any_eq_true.mp own
  exact List.any_eq_true.mpr ⟨kind, h member, isKind⟩

/-- The parts of trees at any depth that are nodes of some kinds. -/
def nodesOf (kinds : List Kind) (trees : List Tree) : List Tree :=
  (subtreesOf trees).filter (isOneOf kinds)

variable (kinds : List Kind)

theorem nodesOf_leadingRemarks (tree : Tree) : nodesOf kinds tree.leadingRemarks = [] := by
  refine List.filter_eq_nil_iff.mpr fun part member => ?_
  obtain ⟨other, leading, member⟩ := mem_subtreesOf.mp member
  obtain ⟨_, _, r, _, rfl⟩ := exists_of_mem_leadingRemarks leading
  obtain rfl := List.mem_singleton.mp member
  simp [isOneOf, isNode]

theorem nodesOf_append (front back : List Tree) :
    nodesOf kinds (front ++ back) = nodesOf kinds front ++ nodesOf kinds back := by
  rw [nodesOf, subtreesOf_append, List.filter_append, nodesOf, nodesOf]

theorem nodesOf_cons (tree : Tree) (rest : List Tree) :
    nodesOf kinds (tree :: rest) = nodesOf kinds [tree] ++ nodesOf kinds rest := by
  rw [← List.singleton_append, nodesOf_append]

theorem nodesOf_singleton (tree : Tree) :
    nodesOf kinds [tree] = [tree].filter (isOneOf kinds) ++ nodesOf kinds tree.children := by
  rw [nodesOf, subtreesOf, subtreesOf, List.append_nil, subtrees_eq, ← List.singleton_append,
    List.filter_append, nodesOf]

mutual

theorem nodesOf_withRemarks (tree : Tree) :
    nodesOf kinds [tree.withRemarks] = (nodesOf kinds [tree]).map withRemarks := by
  have below : nodesOf kinds tree.withRemarks.children =
      (nodesOf kinds tree.children).map withRemarks := by
    match tree with
    | leaf _ | remark _ | node _ [] => rfl
    | node kind (first :: rest) =>
        -- The remarks before the first part stand outside of the node.
        rw [withRemarks, children, nodesOf_cons, nodesOf_withRemarks first,
          nodesOf_allWithRemarks rest, children, nodesOf_cons kinds first rest, List.map_append]
  have own : tree.withRemarks.isOneOf kinds = tree.isOneOf kinds := by simp [isOneOf]
  rw [nodesOf_singleton, nodesOf_singleton, below, List.map_append, List.filter_singleton,
    List.filter_singleton, own]
  cases tree.isOneOf kinds <;> rfl

/-- Remarks do not change which nodes of a kind there are. -/
theorem nodesOf_allWithRemarks (trees : List Tree) :
    nodesOf kinds (allWithRemarks trees) = (nodesOf kinds trees).map withRemarks := by
  match trees with
  | [] => rfl
  | tree :: rest =>
      rw [allWithRemarks, nodesOf_append, nodesOf_leadingRemarks, List.nil_append, nodesOf_cons,
        nodesOf_withRemarks tree, nodesOf_allWithRemarks rest, nodesOf_cons kinds tree rest,
        List.map_append]

end

end Subtrees

end Tree

namespace Visit

variable {header : Header}

theorem map_tree_siblings (parent : Option Tree.Kind) (enclosing : List String)
    (before trees : List Tree) :
    (siblings parent enclosing before trees).map Visit.tree = trees := by
  induction trees generalizing before with
  | nil => rfl
  | cons tree rest ih => rw [siblings, List.map_cons, ih]

theorem map_tree_children (visit : Visit) :
    (visit.children header).map Visit.tree = visit.tree.children := by
  obtain ⟨parent, children⟩ := visit.children_eq_siblings header
  rw [children, map_tree_siblings]

/-- The walk visits all parts at any depth, in their order. -/
theorem map_tree_walk (visits : List Visit) :
    (walk header visits).map Visit.tree = Tree.subtreesOf (visits.map Visit.tree) := by
  fun_induction walk header visits with
  | case1 => rfl
  | case2 visit rest ih =>
      rw [List.map_cons, ih, List.map_append, map_tree_children, Tree.subtreesOf_append,
        List.map_cons, Tree.subtreesOf, Tree.subtrees_eq, List.cons_append]

section Found

variable {α : Type} {found : Visit → Option α} {R : Tree → α → Prop}

theorem forall₂_filterMap {visits : List Visit} {trees : List Tree}
    (h : visits.map Visit.tree = trees.map Tree.withRemarks)
    (some : ∀ tree ∈ trees, ∀ visit : Visit, visit.tree = tree.withRemarks →
      ∃ value, found visit = some value ∧ R tree value) :
    List.Forall₂ R trees (visits.filterMap found) := by
  induction trees generalizing visits with
  | nil =>
      obtain rfl := List.map_eq_nil_iff.mp h
      exact .nil
  | cons tree rest ih =>
      obtain ⟨visit, others, rfl, own, later⟩ := List.map_eq_cons_iff.mp h
      obtain ⟨first, behind⟩ := List.forall_mem_cons.mp some
      obtain ⟨value, equal, holds⟩ := first visit own
      rw [List.filterMap_cons_some equal]
      exact .cons holds (ih later behind)

/-- What is found on the walk at nodes of some kinds only is found in the order of these nodes. -/
theorem forall₂_nodesOf {kinds : List Tree.Kind} {parts : List Tree}
    (none : ∀ visit, visit.tree.isOneOf kinds = false → found visit = none)
    (some : ∀ tree ∈ Tree.nodesOf kinds parts, ∀ visit : Visit, visit.tree = tree.withRemarks →
      ∃ value, found visit = some value ∧ R tree value) :
    List.Forall₂ R (Tree.nodesOf kinds parts)
      ((walk header (siblings Option.none [] [] (Tree.allWithRemarks parts))).filterMap found) := by
  generalize visited : walk header (siblings Option.none [] [] (Tree.allWithRemarks parts)) = visits
  have trees : (visits.filter fun visit => visit.tree.isOneOf kinds).map Visit.tree =
      (Tree.nodesOf kinds parts).map Tree.withRemarks := by
    rw [← Tree.nodesOf_allWithRemarks, Tree.nodesOf, ← map_tree_siblings Option.none [] []
      (Tree.allWithRemarks parts), ← map_tree_walk, visited, List.filter_map]
    rfl
  have only : visits.filterMap found =
      (visits.filter fun visit => visit.tree.isOneOf kinds).filterMap found := by
    rw [List.filterMap_filter]
    congr 1
    funext visit
    cases kind : visit.tree.isOneOf kinds with
    | false => simp [none visit kind]
    | true => simp
  rw [only]
  exact forall₂_filterMap trees some

end Found

end Visit

end JavadocAudit.Source

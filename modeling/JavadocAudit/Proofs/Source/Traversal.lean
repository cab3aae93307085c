import JavadocAudit.Source.Walk
import Mathlib.Data.List.Basic
import Mathlib.Data.List.Forall2

/-!
# Places in trees

The place of a part is the list of indices that lead to it, from the outermost trees on down, and
the last one is its index among the parts of the node around it. Places are ordered as lists: a part
comes before its own parts, and these come before what stands to its right. The walk visits every
place once and in this order, and what a visit knows to be before its part is what stands to the
left of its place.
-/

namespace JavadocAudit.Source

namespace Tree

/-- The parts of the tree to which indices lead; all trees, if there are no indices. -/
def partsAt? : List Tree → List Nat → Option (List Tree)
  | trees, [] => some trees
  | trees, index :: rest => trees[index]?.bind fun tree => partsAt? tree.children rest

def part? (trees : List Tree) (place : List Nat) : Option Tree :=
  (partsAt? trees place.dropLast).bind fun parts => place.getLast?.bind fun index => parts[index]?

theorem part?_concat {trees above below : List Tree} {tree : Tree} {front : List Nat}
    (h : partsAt? trees front = some (above ++ tree :: below)) :
    part? trees (front ++ [above.length]) = some tree := by
  simp [part?, h]

/-- The parts of a node fall into those to the left of a place, the one at it, and those to its
right. -/
theorem exists_of_part? {trees : List Tree} {place : List Nat} {tree : Tree}
    (h : part? trees place = some tree) :
    ∃ front above below, partsAt? trees front = some (above ++ tree :: below) ∧
      place = front ++ [above.length] := by
  obtain ⟨parts, reached, h⟩ := Option.bind_eq_some_iff.mp h
  obtain ⟨index, last, found⟩ := Option.bind_eq_some_iff.mp h
  obtain ⟨inside, rfl⟩ := List.getElem?_eq_some_iff.mp found
  refine ⟨place.dropLast, parts.take index, parts.drop (index + 1), ?_, ?_⟩
  · rw [reached, List.getElem_cons_drop, List.take_append_drop]
  · rw [List.length_take_of_le (Nat.le_of_lt inside)]
    exact (List.dropLast_append_getLast? index last).symm

mutual

/-- The places of all that is below a tree, in their order. -/
def placesBelow : Tree → List (List Nat)
  | node _ parts => placesFrom 0 parts
  | _ => []

/-- The places of trees and of all that is below them, if the first tree has a given index. -/
def placesFrom (index : Nat) : List Tree → List (List Nat)
  | [] => []
  | tree :: rest =>
    ([index] :: tree.placesBelow.map (index :: ·)) ++ placesFrom (index + 1) rest

end

theorem placesBelow_eq (tree : Tree) : tree.placesBelow = placesFrom 0 tree.children := by
  cases tree <;> rfl

theorem mem_placesFrom {trees : List Tree} {index : Nat} {place : List Nat} :
    place ∈ placesFrom index trees ↔ ∃ i tree rest, trees[i]? = some tree ∧
      place = (index + i) :: rest ∧ (rest = [] ∨ rest ∈ tree.placesBelow) := by
  induction trees generalizing index with
  | nil => simp [placesFrom]
  | cons tree others ih =>
      have here : place ∈ [index] :: tree.placesBelow.map (index :: ·) ↔
          ∃ rest, place = index :: rest ∧ (rest = [] ∨ rest ∈ tree.placesBelow) := by
        rw [List.mem_cons, List.mem_map]
        constructor
        · rintro (rfl | ⟨rest, member, rfl⟩)
          · exact ⟨[], rfl, .inl rfl⟩
          · exact ⟨rest, rfl, .inr member⟩
        · rintro ⟨rest, rfl, rfl | member⟩
          · exact .inl rfl
          · exact .inr ⟨rest, member, rfl⟩
      rw [placesFrom, List.mem_append, here, ih]
      constructor
      · rintro (⟨rest, equal⟩ | ⟨i, other, rest, found, rfl, tail⟩)
        · exact ⟨0, tree, rest, rfl, equal⟩
        · exact ⟨i + 1, other, rest, found, by rw [Nat.add_right_comm, Nat.add_assoc], tail⟩
      · rintro ⟨_ | i, other, rest, found, rfl, tail⟩
        · obtain rfl := Option.some.inj found
          exact .inl ⟨rest, rfl, tail⟩
        · exact .inr ⟨i, other, rest, found, by rw [Nat.add_right_comm, Nat.add_assoc], tail⟩

theorem concat_mem_placesFrom {trees above below : List Tree} {tree : Tree} {front : List Nat}
    (h : partsAt? trees front = some (above ++ tree :: below)) :
    front ++ [above.length] ∈ placesFrom 0 trees := by
  induction front generalizing trees with
  | nil =>
      obtain rfl := Option.some.inj h
      exact mem_placesFrom.mpr ⟨above.length, tree, [], by simp, by simp, .inl rfl⟩
  | cons index rest ih =>
      obtain ⟨other, found, reached⟩ := Option.bind_eq_some_iff.mp h
      refine mem_placesFrom.mpr ⟨index, other, rest ++ [above.length], found, by simp, .inr ?_⟩
      rw [placesBelow_eq]
      exact ih reached

mutual

theorem pairwise_placesBelow (tree : Tree) : tree.placesBelow.Pairwise (· < ·) := by
  match tree with
  | leaf _ | remark _ => exact .nil
  | node _ parts => exact pairwise_placesFrom 0 parts

/-- The places are listed in strictly increasing order. -/
theorem pairwise_placesFrom (index : Nat) (trees : List Tree) :
    (placesFrom index trees).Pairwise (· < ·) := by
  match trees with
  | [] => exact .nil
  | tree :: rest =>
      have below : (tree.placesBelow.map (index :: ·)).Pairwise (· < ·) :=
        List.Pairwise.map _ (fun _ _ less => List.cons_lt_cons_self.mpr less)
          (pairwise_placesBelow tree)
      refine List.pairwise_append.mpr
        ⟨List.pairwise_cons.mpr ⟨?_, below⟩, pairwise_placesFrom (index + 1) rest, ?_⟩
      · -- A part comes before its own parts, whose places go on where its place ends.
        intro place member
        obtain ⟨inner, inside, rfl⟩ := List.mem_map.mp member
        rw [placesBelow_eq] at inside
        obtain ⟨i, other, more, -, rfl, -⟩ := mem_placesFrom.mp inside
        exact List.cons_lt_cons_self.mpr .nil
      · -- Its own parts come before what stands to its right, since their first index is less.
        intro left here right there
        obtain ⟨i, other, more, -, rfl, -⟩ := mem_placesFrom.mp there
        have first : ∃ more, left = index :: more := by
          obtain rfl | member := List.mem_cons.mp here
          · exact ⟨[], rfl⟩
          · obtain ⟨inner, -, rfl⟩ := List.mem_map.mp member
            exact ⟨inner, rfl⟩
        obtain ⟨inner, rfl⟩ := first
        exact List.cons_lt_cons_iff.mpr (.inl (by omega))

end

end Tree

namespace Visit

def InPlace (trees : List Tree) (place : List Nat) (visit : Visit) : Prop :=
  ∃ front above below, Tree.partsAt? trees front = some (above ++ visit.tree :: below) ∧
    place = front ++ [above.length] ∧ visit.before = above.reverse

theorem InPlace.part? {trees : List Tree} {place : List Nat} {visit : Visit}
    (h : visit.InPlace trees place) : Tree.part? trees place = some visit.tree := by
  obtain ⟨front, above, below, reached, rfl, -⟩ := h
  exact Tree.part?_concat reached

/-- Seen from the trees around it, a place has the index of the tree that it is in before it. -/
theorem InPlace.ofChild {trees : List Tree} {index : Nat} {tree : Tree} {place : List Nat}
    {visit : Visit} (h : visit.InPlace tree.children place) (found : trees[index]? = some tree) :
    visit.InPlace trees (index :: place) := by
  obtain ⟨front, above, below, reached, rfl, before⟩ := h
  refine ⟨index :: front, above, below, ?_, rfl, before⟩
  rw [Tree.partsAt?, found]
  exact reached

theorem walk_append (header : Header) (first second : List Visit) :
    walk header (first ++ second) = walk header first ++ walk header second := by
  fun_induction walk header first with
  | case1 => rfl
  | case2 visit rest ih => rw [List.cons_append, walk, ← List.append_assoc, ih, List.cons_append]

mutual

theorem forall₂_walk_children (header : Header) (visit : Visit) (tree : Tree)
    (h : visit.tree = tree) :
    List.Forall₂ (InPlace tree.children) tree.placesBelow
      (walk header (visit.children header)) := by
  match tree with
  | .leaf _ | .remark _ =>
      rw [children, h]
      simp [walk, Tree.placesBelow]
  | .node kind parts =>
      rw [children, h]
      exact forall₂_walk_siblings header _ _ [] parts

theorem forall₂_walk_siblings (header : Header) (parent : Option Tree.Kind)
    (enclosing : List String) (before trees : List Tree) :
    List.Forall₂ (InPlace (before.reverse ++ trees)) (Tree.placesFrom before.length trees)
      (walk header (siblings parent enclosing before trees)) := by
  match trees with
  | [] => simp [siblings, walk, Tree.placesFrom]
  | tree :: rest =>
      have own : InPlace (before.reverse ++ tree :: rest) [before.length]
          ⟨tree, before, parent, enclosing⟩ :=
        ⟨[], before.reverse, rest, rfl, by simp, by simp⟩
      have below := forall₂_walk_children header ⟨tree, before, parent, enclosing⟩ tree rfl
      have right := forall₂_walk_siblings header parent enclosing (tree :: before) rest
      rw [List.reverse_cons, List.append_assoc, List.singleton_append] at right
      rw [siblings, walk, walk_append, Tree.placesFrom]
      refine .cons own ?_
      refine List.rel_append ?_ right
      refine List.forall₂_map_left_iff.mpr (below.imp fun place visit inside => ?_)
      exact inside.ofChild (by simp)

end

/-- The walk visits the places of trees, each once and in their order. -/
theorem forall₂_walk (header : Header) (trees : List Tree) :
    List.Forall₂ (InPlace trees) (Tree.placesFrom 0 trees)
      (walk header (siblings none [] [] trees)) :=
  forall₂_walk_siblings header none [] [] trees

end Visit

end JavadocAudit.Source

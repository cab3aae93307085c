import JavadocAudit.Proofs.Source.Traversal
import Mathlib.Data.List.Infix

/-!
# The walk as a recursion

The walk keeps a list of what is left to be visited, which mixes parts of many nodes with the types
around them. A recursion over trees says the same without such a list: first comes a tree, then what
its parts give, from left to right. It gives every part together with the parts around it, and among
these are the types whose names the walk hands down.

The two agree for any list of what is left, one entry after the other, since a step replaces an
entry by its parts, and the recursion does likewise. In terms of places, the parts around a part are
those at the shorter places that lead to it.
-/

namespace JavadocAudit.Source

namespace Tree

/-- The name of the type that a part declares, as it is written in the declaration. -/
def ownTypeName? (tree : Tree) : Option String :=
  if tree.isNode .typeDeclaration then tree.declaredName? else none

mutual

/-- A tree and its parts at any depth, each with the parts around it, the outermost first. -/
def preorder : Tree → List (Tree × List Tree)
  | node kind parts =>
    (node kind parts, []) ::
      (preorderOf parts).map fun found => (found.1, node kind parts :: found.2)
  | tree => [(tree, [])]

/-- Trees and their parts at any depth, each with the parts around it. -/
def preorderOf : List Tree → List (Tree × List Tree)
  | [] => []
  | tree :: rest => tree.preorder ++ preorderOf rest

end

theorem preorder_eq (tree : Tree) :
    tree.preorder =
      (tree, []) :: (preorderOf tree.children).map fun found => (found.1, tree :: found.2) := by
  cases tree <;> rfl

section Around

variable {trees : List Tree} {tree : Tree} {index : Nat} {place : List Nat}

/-- The parts around a place, the outermost first: those at the shorter places that lead to it. -/
def around (trees : List Tree) (place : List Nat) : List Tree :=
  place.inits.dropLast.filterMap (part? trees)

theorem part?_nil (trees : List Tree) : part? trees [] = none := rfl

theorem part?_singleton (trees : List Tree) (index : Nat) : part? trees [index] = trees[index]? :=
  rfl

/-- A longer place goes on inside of the tree that its first index leads to. -/
theorem part?_cons (found : trees[index]? = some tree) (inner : place ≠ []) :
    part? trees (index :: place) = part? tree.children place := by
  rw [part?, List.dropLast_cons_of_ne_nil inner, List.getLast?_cons_of_ne_nil inner, partsAt?,
    found, part?]
  rfl

theorem dropLast_inits_cons (index : Nat) (rest : List Nat) :
    (index :: rest).inits.dropLast = [] :: rest.inits.dropLast.map (index :: ·) := by
  have more : rest.inits.map (index :: ·) ≠ [] := by
    rw [Ne, List.map_eq_nil_iff]
    exact List.ne_nil_of_length_pos (by simp)
  rw [List.inits_cons, List.dropLast_cons_of_ne_nil more, List.map_dropLast]

/-- The empty place leads to no part, so the first index belongs to all that is around. -/
theorem around_eq_filterMap (trees : List Tree) (index : Nat) (rest : List Nat) :
    around trees (index :: rest) =
      rest.inits.dropLast.filterMap fun front => part? trees (index :: front) := by
  rw [around, dropLast_inits_cons, List.filterMap_cons_none (part?_nil trees), List.filterMap_map]
  rfl

theorem around_singleton (trees : List Tree) (index : Nat) : around trees [index] = [] := rfl

theorem around_cons (found : trees[index]? = some tree) (inner : place ≠ []) :
    around trees (index :: place) = tree :: around tree.children place := by
  obtain ⟨next, rest, rfl⟩ := List.exists_cons_of_ne_nil inner
  have inside (front : List Nat) :
      part? trees (index :: next :: front) = part? tree.children (next :: front) :=
    part?_cons found (List.cons_ne_nil next front)
  rw [around_eq_filterMap, around_eq_filterMap, dropLast_inits_cons, List.filterMap_cons,
    part?_singleton, found, List.filterMap_map]
  simp only [Function.comp_def, inside]

/-- What the recursion finds for a place: the part at it, and the parts around it. -/
structure FoundAt (trees : List Tree) (place : List Nat) (found : Tree × List Tree) : Prop where
  part : part? trees place = some found.1
  outer : found.2 = around trees place

theorem FoundAt.ofChild {found : Tree × List Tree} (h : FoundAt tree.children place found)
    (child : trees[index]? = some tree) :
    FoundAt trees (index :: place) (found.1, tree :: found.2) := by
  have inner : place ≠ [] := by
    rintro rfl
    cases h.part
  exact ⟨(part?_cons child inner).trans h.part, by rw [around_cons child inner, h.outer]⟩

mutual

theorem forall₂_preorderOf_children (tree : Tree) :
    List.Forall₂ (FoundAt tree.children) tree.placesBelow (preorderOf tree.children) := by
  match tree with
  | leaf _ | remark _ => exact .nil
  | node _ parts => exact forall₂_preorderOf [] parts

/-- The recursion goes through the places of trees, each once and in their order. -/
theorem forall₂_preorderOf (before trees : List Tree) :
    List.Forall₂ (FoundAt (before ++ trees)) (placesFrom before.length trees)
      (preorderOf trees) := by
  match trees with
  | [] => exact .nil
  | tree :: rest =>
      have child : (before ++ tree :: rest)[before.length]? = some tree := by simp
      have own : FoundAt (before ++ tree :: rest) [before.length] (tree, []) :=
        ⟨(part?_singleton _ _).trans child, (around_singleton _ _).symm⟩
      have below := forall₂_preorderOf_children tree
      have right := forall₂_preorderOf (before ++ [tree]) rest
      rw [List.append_assoc, List.singleton_append, List.length_append] at right
      rw [preorderOf, preorder_eq, placesFrom]
      refine .cons own (List.rel_append ?_ right)
      -- Below the tree, both sides put it in front: its index, and the tree itself.
      rw [List.forall₂_map_left_iff, List.forall₂_map_right_iff]
      exact below.imp fun place found inside => inside.ofChild child

end

/-- The places are those at which there is a part. -/
theorem mem_placesFrom_iff_isSome :
    place ∈ placesFrom 0 trees ↔ (part? trees place).isSome = true := by
  constructor
  · have found : List.Forall₂ (fun place found => (part? trees place).isSome = true ∧
        FoundAt trees place found) (placesFrom 0 trees) (preorderOf trees) :=
      (forall₂_preorderOf [] trees).imp fun _ _ h => ⟨Option.isSome_of_eq_some h.part, h⟩
    exact ((List.forall₂_and_left _ _).mp found).1 place
  · intro isSome
    obtain ⟨tree, found⟩ := Option.isSome_iff_exists.mp isSome
    obtain ⟨front, above, below, reached, rfl⟩ := exists_of_part? found
    exact concat_mem_placesFrom reached

end Around

end Tree

namespace Header

/-- The name of a type with what is around it, if there is anything, and a dot before it. -/
def nestedName : Option String → String → String
  | some outer, name => outer ++ "." ++ name
  | none, name => name

/-- The qualified names of types one inside the other. Around the outermost is what is given, and
around every other one the type before it. -/
def nestedNames (outer : Option String) : List String → List String
  | [] => []
  | name :: rest => nestedName outer name :: nestedNames (some (nestedName outer name)) rest

/-- The package of a file, if it has one. -/
def package? (header : Header) : Option String :=
  header.package.filter fun package => !package.isEmpty

/-- The qualified names of the named types among the parts around a part. -/
def namesAround (header : Header) (parts : List Tree) : List String :=
  nestedNames header.package? (parts.filterMap Tree.ownTypeName?)

theorem qualify_eq (header : Header) (enclosing : List String) (name : String) :
    header.qualify enclosing name = nestedName (enclosing.getLast?.or header.package?) name := by
  rw [qualify, package?]
  cases enclosing.getLast? with
  | some outer => rfl
  | none =>
      cases header.package with
      | none => rfl
      | some package =>
          cases empty : package.isEmpty <;>
            simp [Option.filter, empty, nestedName, ClassTable.qualify]

/-- The qualified names of a chain of types and of the named types among parts inside of it. -/
def chain (header : Header) (enclosing : List String) (parts : List Tree) : List String :=
  enclosing ++
    nestedNames (enclosing.getLast?.or header.package?) (parts.filterMap Tree.ownTypeName?)

theorem chain_nil (header : Header) (enclosing : List String) :
    header.chain enclosing [] = enclosing :=
  List.append_nil enclosing

/-- The outermost of the parts can be put into the chain, if it is a named type. -/
theorem chain_cons (header : Header) (enclosing : List String) (tree : Tree) (parts : List Tree) :
    header.chain enclosing (tree :: parts) =
      header.chain (enclosing ++ (tree.ownTypeName?.map (header.qualify enclosing)).toList)
        parts := by
  cases own : tree.ownTypeName? with
  | none => simp [chain, own]
  | some name =>
      simp only [chain, List.filterMap_cons_some own, nestedNames, ← qualify_eq, Option.map_some,
        Option.toList_some, List.getLast?_concat, Option.some_or, List.append_assoc,
        List.singleton_append]

end Header

namespace Visit

/-- What a visit gives: a part, and the qualified names of the types around it. -/
def seen (visit : Visit) : Tree × List String := (visit.tree, visit.enclosing)

/-- What the recursion finds inside a chain of types, with the chain at each part. -/
def named (header : Header) (enclosing : List String) (found : Tree × List Tree) :
    Tree × List String :=
  (found.1, header.chain enclosing found.2)

/-- What the recursion gives for a part in its place. -/
def preorder (header : Header) (visit : Visit) : List (Tree × List String) :=
  visit.tree.preorder.map (named header visit.enclosing)

theorem typeName?_eq (header : Header) (visit : Visit) :
    visit.typeName? header = visit.tree.ownTypeName?.map (header.qualify visit.enclosing) := by
  rw [typeName?, Tree.ownTypeName?]
  split <;> rfl

theorem flatMap_preorder_siblings (header : Header) (parent : Option Tree.Kind)
    (enclosing : List String) (before trees : List Tree) :
    (siblings parent enclosing before trees).flatMap (preorder header) =
      (Tree.preorderOf trees).map (named header enclosing) := by
  induction trees generalizing before with
  | nil => rfl
  | cons tree rest ih =>
      rw [siblings, List.flatMap_cons, ih, Tree.preorderOf, List.map_append, preorder]

/-- A part is followed by what its own parts give, and these are what a step puts in its place. -/
theorem preorder_eq_cons (header : Header) (visit : Visit) :
    visit.preorder header = visit.seen :: (visit.children header).flatMap (preorder header) := by
  obtain ⟨parent, children⟩ := visit.children_eq_siblings header
  -- For what is below the part, the part itself is the outermost around, or belongs to the chain.
  have inner : named header visit.enclosing ∘ (fun found => (found.1, visit.tree :: found.2)) =
      named header (visit.enclosing ++ (visit.typeName? header).toList) := by
    funext found
    simp only [Function.comp_apply, named, Header.chain_cons, typeName?_eq]
  have own : named header visit.enclosing (visit.tree, []) = visit.seen := by
    rw [named, Header.chain_nil, seen]
  rw [preorder, Tree.preorder_eq, List.map_cons, own, List.map_map, inner, children,
    flatMap_preorder_siblings]

/-- At any moment, what the walk is going to give is what the recursion gives for the parts that are
left to be visited, one after the other. -/
theorem map_seen_walk (header : Header) (visits : List Visit) :
    (walk header visits).map seen = visits.flatMap (preorder header) := by
  fun_induction walk header visits with
  | case1 => rfl
  | case2 visit rest ih =>
      rw [List.map_cons, ih, List.flatMap_append, List.flatMap_cons, preorder_eq_cons,
        List.cons_append]

/-- The walk takes one step for each part that is to be visited. -/
theorem length_walk (header : Header) (visits : List Visit) :
    (walk header visits).length = remaining visits := by
  fun_induction walk header visits with
  | case1 => rfl
  | case2 visit rest ih =>
      rw [List.length_cons, ih, remaining_append, remaining_children, remaining_cons,
        Tree.size_eq]
      omega

/-- The walk through trees, or through a single one, ends after as many steps as there are parts and
gives what the recursion gives: each part before its own parts, and these from left to right, with
the qualified names of the named types around it, the outermost first. In other words, it gives the
parts at all places, each once and in the order of the places. -/
theorem walk_is_recursive_preorder (header : Header) (trees : List Tree) :
    (walk header (siblings none [] [] trees)).length = Tree.sizeOfAll trees ∧
      (walk header (siblings none [] [] trees)).map seen =
        (Tree.preorderOf trees).map (fun found => (found.1, header.namesAround found.2)) ∧
      ∃ places : List (List Nat), places.Pairwise (· < ·) ∧
        (∀ place, place ∈ places ↔ (Tree.part? trees place).isSome = true) ∧
        List.Forall₂ (fun place visit => Tree.part? trees place = some visit.tree ∧
          visit.enclosing = header.namesAround (Tree.around trees place)) places
            (walk header (siblings none [] [] trees)) := by
  have recursion : (walk header (siblings none [] [] trees)).map seen =
      (Tree.preorderOf trees).map (named header []) := by
    rw [map_seen_walk, flatMap_preorder_siblings]
  refine ⟨by rw [length_walk, remaining_siblings], recursion, Tree.placesFrom 0 trees,
    Tree.pairwise_placesFrom 0 trees, fun place => Tree.mem_placesFrom_iff_isSome, ?_⟩
  have places : List.Forall₂ (fun place (found : Tree × List String) =>
      Tree.part? trees place = some found.1 ∧
        found.2 = header.namesAround (Tree.around trees place)) (Tree.placesFrom 0 trees)
      ((walk header (siblings none [] [] trees)).map seen) := by
    rw [recursion, List.forall₂_map_right_iff]
    refine (Tree.forall₂_preorderOf [] trees).imp fun place found h => ?_
    exact ⟨h.part, congrArg (header.chain []) h.outer⟩
  exact List.forall₂_map_right_iff.mp places

end Visit

end JavadocAudit.Source

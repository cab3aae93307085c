import JavadocAudit.Source.Header

/-!
# Walking through a source tree

All parts of a tree are visited, each one before its own parts and these from left to right. A visit
knows what stands before the part in the same node, and the types around it. What is left to be
visited is kept in a list, from which the walk takes the first and puts its parts in front.
-/

namespace JavadocAudit.Source

/-- A part of a tree in its place. -/
structure Visit where
  tree : Tree
  /-- What stands before it in the same node, the nearest first. -/
  before : List Tree := []
  /-- The kind of the node around it. -/
  parent : Option Tree.Kind := none
  /-- The qualified names of the types around it, the outermost first. -/
  enclosing : List String := []

namespace Visit

/-- Parts of one node, one after the other. -/
def siblings (parent : Option Tree.Kind) (enclosing : List String) :
    List Tree → List Tree → List Visit
  | _, [] => []
  | before, tree :: rest =>
    ⟨tree, before, parent, enclosing⟩ :: siblings parent enclosing (tree :: before) rest

/-- The qualified name of the type that a part declares. -/
def typeName? (header : Header) (visit : Visit) : Option String :=
  if visit.tree.isNode .typeDeclaration then
    visit.tree.declaredName?.map (header.qualify visit.enclosing)
  else none

/-- The parts of a part. A type is around all of its own parts. -/
def children (header : Header) (visit : Visit) : List Visit :=
  match visit.tree with
  | .node kind trees =>
    siblings (some kind) (visit.enclosing ++ (visit.typeName? header).toList) [] trees
  | _ => []

/-- The parts of a part are those of its tree, one after the other. -/
theorem children_eq_siblings (header : Header) (visit : Visit) :
    ∃ parent, visit.children header =
      siblings parent (visit.enclosing ++ (visit.typeName? header).toList) []
        visit.tree.children := by
  rw [children]
  cases visit.tree with
  | node kind parts => exact ⟨some kind, rfl⟩
  | leaf _ | remark _ => exact ⟨none, rfl⟩

/-- The number of parts that are still to be visited. -/
def remaining (visits : List Visit) : Nat :=
  visits.foldr (fun visit count => visit.tree.size + count) 0

theorem remaining_cons (visit : Visit) (visits : List Visit) :
    remaining (visit :: visits) = visit.tree.size + remaining visits := rfl

theorem remaining_append (first second : List Visit) :
    remaining (first ++ second) = remaining first + remaining second := by
  induction first with
  | nil => simp [remaining]
  | cons visit rest ih => rw [List.cons_append, remaining_cons, remaining_cons, ih, Nat.add_assoc]

theorem remaining_siblings (parent : Option Tree.Kind) (enclosing : List String)
    (before trees : List Tree) :
    remaining (siblings parent enclosing before trees) = Tree.sizeOfAll trees := by
  induction trees generalizing before with
  | nil => rfl
  | cons tree rest ih => rw [siblings, remaining_cons, ih, Tree.sizeOfAll]

theorem remaining_children (header : Header) (visit : Visit) :
    remaining (visit.children header) = Tree.sizeOfAll visit.tree.children := by
  obtain ⟨parent, children⟩ := visit.children_eq_siblings header
  rw [children, remaining_siblings]

/-- The parts of a part are fewer than the part and its parts. -/
theorem remaining_children_lt (header : Header) (visit : Visit) :
    remaining (visit.children header) < visit.tree.size := by
  rw [remaining_children, Tree.size_eq]
  omega

/-- Visits parts and all that is below them. -/
def walk (header : Header) : List Visit → List Visit
  | [] => []
  | visit :: rest => visit :: walk header (visit.children header ++ rest)
  termination_by visits => remaining visits
  decreasing_by
    have := remaining_children_lt header visit
    rw [remaining_append, remaining_cons]
    omega

end Visit

end JavadocAudit.Source

import JavadocAudit.Proofs.Source.Traversal
import JavadocAudit.Proofs.Text.Line
import JavadocAudit.Source.File
import Mathlib.Data.List.TakeWhile

/-!
# Documentation of declarations

A remark documents the part behind it in the same node, if only line remarks stand between the two.
Every method and every constructor is declared once, in the order of the text, and has a comment if
and only if there is a documentation comment among the remarks that documents it. A declaration
between a remark and a second one keeps the remark from the second one, so no comment is shared.
-/

namespace JavadocAudit.Source

structure Remark.IsDocumentation (r : Remark) : Prop where
  block : r.isBlock = true
  opening : "/**".toList <+: r.text.toList
  content : r.text ≠ "/**/"

namespace Tree

/-- The part is a method or a constructor with a name. -/
def isDeclaration (tree : Tree) : Bool :=
  (tree.isNode .method || tree.isNode .constructor) && tree.declaredName?.isSome

/-- A documentation comment and the part that it documents: the part stands behind the comment in
the same node, with nothing but line remarks between the two. -/
def Documents (trees : List Tree) (source : List Nat) (r : Remark) (place : List Nat) : Prop :=
  r.IsDocumentation ∧ ∃ front above between tree below,
    partsAt? trees front = some (above ++ remark r :: (between ++ tree :: below)) ∧
      (∀ part ∈ between, ∃ line, part = remark line ∧ line.isBlock = false) ∧
      source = front ++ [above.length] ∧ place = front ++ [above.length + (between.length + 1)]

end Tree

/-- The declaration is the one at a place, and its comment is the one that documents the place. -/
structure Declaration.StandsAt (lines : Lines) (trees : List Tree) (place : List Nat)
    (declaration : Declaration) : Prop where
  signature : ∃ tree inInterface scope, Tree.part? trees place = some tree ∧
    tree.signature? lines inInterface scope = some declaration.signature
  documented : declaration.comment.isSome = true ↔
    ∃ source r, Tree.Documents trees source r place
  comment : ∀ source r, Tree.Documents trees source r place →
    ∃ comment, declaration.comment = some comment ∧ comment.start = lines.position r.point ∧
      "\n".intercalate comment.lines = r.text

/-- The lines of a comment are those of its text. -/
theorem intercalate_lines_ofText (text : String) (start : Position) :
    "\n".intercalate (Comment.ofText text start).lines = text := by
  apply String.toList_injective
  rw [String.toList_intercalate, Comment.ofText, List.map_map]
  have same : String.toList ∘ String.ofList = id := funext fun cs => String.toList_ofList
  rw [same, List.map_id]
  exact (Text.intercalate_newline _).trans (Text.joinLines_splitLines _)

namespace Visit

variable {lines : Lines}

theorem isLineRemark_iff {part : Tree} :
    isLineRemark part = true ↔ ∃ line, part = .remark line ∧ line.isBlock = false := by
  cases part <;> simp [isLineRemark]

theorem comment?_eq_some_iff {visit : Visit} {comment : Comment} :
    visit.comment? lines = some comment ↔
      ∃ between r above, visit.before = between ++ .remark r :: above ∧
        (∀ part ∈ between, isLineRemark part = true) ∧ r.IsDocumentation ∧
        comment = Comment.ofText r.text (lines.position r.point) := by
  constructor
  · intro h
    have split := (List.takeWhile_append_dropWhile (p := isLineRemark) (l := visit.before)).symm
    have stop := List.head?_dropWhile_not isLineRemark visit.before
    rw [comment?] at h
    cases remaining : visit.before.dropWhile isLineRemark with
    | nil => simp [remaining] at h
    | cons first above =>
        rw [remaining] at h split stop
        cases first with
        | leaf _ | node _ _ => simp at h
        | remark r =>
            have isBlock : r.isBlock = true := by simpa [isLineRemark] using stop
            obtain ⟨⟨opening, content⟩, rfl⟩ : (r.text.startsWith "/**" = true ∧ r.text ≠ "/**/") ∧
                Comment.ofText r.text (lines.position r.point) = comment := by simpa using h
            exact ⟨_, r, above, split, fun part => List.mem_takeWhile_imp,
              ⟨isBlock, String.startsWith_string_iff.mp opening, content⟩, rfl⟩
  · rintro ⟨between, r, above, before, isLine, ⟨isBlock, opening, content⟩, rfl⟩
    have stop : isLineRemark (.remark r) = false := by simp [isLineRemark, isBlock]
    have first : (visit.before.dropWhile isLineRemark).head? = some (.remark r) := by
      rw [before, List.dropWhile_append_of_pos isLine, List.dropWhile_cons_of_neg (by simp [stop]),
        List.head?_cons]
    rw [comment?, first]
    simp [String.startsWith_string_iff.mpr opening, content]

/-- The comment of a part is the documentation comment that documents its place. -/
theorem InPlace.comment?_eq_some_iff {trees : List Tree} {place : List Nat} {visit : Visit}
    {comment : Comment} (h : visit.InPlace trees place) :
    visit.comment? lines = some comment ↔ ∃ source r, Tree.Documents trees source r place ∧
      comment = Comment.ofText r.text (lines.position r.point) := by
  obtain ⟨front, left, right, reached, rfl, before⟩ := h
  rw [Visit.comment?_eq_some_iff]
  constructor
  · rintro ⟨between, r, above, equal, isLine, documentation, rfl⟩
    have parts : left = above.reverse ++ .remark r :: between.reverse := by
      rw [← List.reverse_reverse left, ← before, equal]
      simp
    subst parts
    refine ⟨_, r, ⟨documentation, front, above.reverse, between.reverse, visit.tree, right,
      by simpa using reached, ?_, rfl, by simp⟩, rfl⟩
    exact fun part member => isLineRemark_iff.mp (isLine part (List.mem_reverse.mp member))
  · rintro ⟨source, r, ⟨documentation, front', above, between, tree, below, reached', isLine, -,
      same⟩, rfl⟩
    obtain ⟨rfl, index⟩ := List.append_singleton_inj.mp same
    have parts : left ++ visit.tree :: right =
        (above ++ .remark r :: between) ++ tree :: below := by
      rw [List.append_assoc]
      exact Option.some.inj (reached.symm.trans reached')
    obtain ⟨rfl, -⟩ := List.append_inj parts (by simpa using index)
    refine ⟨between.reverse, r, above.reverse, by simp [before], fun part member => ?_,
      documentation, rfl⟩
    exact isLineRemark_iff.mpr (isLine part (List.mem_reverse.mp member))

variable {header : Header}

theorem isSome_declaration? (lines : Lines) (header : Header) (visit : Visit) :
    (visit.declaration? lines header).isSome = visit.tree.isDeclaration := by
  rw [declaration?, Tree.isDeclaration]
  split
  · next kind =>
      rw [Option.isSome_map, kind, Bool.true_and, Tree.signature?]
      cases visit.tree.declaredName? <;> rfl
  · next kind => simp [kind]

theorem exists_signature?_of_declaration? {visit : Visit} {declaration : Declaration}
    (h : visit.declaration? lines header = some declaration) :
    ∃ inInterface scope,
      visit.tree.signature? lines inInterface scope = some declaration.signature ∧
        declaration.comment = visit.comment? lines := by
  rw [declaration?] at h
  split at h
  · obtain ⟨signature, found, rfl⟩ := Option.map_eq_some_iff.mp h
    exact ⟨_, _, found, rfl⟩
  · cases h

theorem InPlace.standsAt {trees : List Tree} {place : List Nat} {visit : Visit}
    {declaration : Declaration} (h : visit.InPlace trees place)
    (found : visit.declaration? lines header = some declaration) :
    declaration.StandsAt lines trees place := by
  obtain ⟨inInterface, scope, signature, own⟩ := exists_signature?_of_declaration? found
  refine ⟨⟨visit.tree, inInterface, scope, h.part?, signature⟩, ?_, ?_⟩
  · rw [own, Option.isSome_iff_exists]
    constructor
    · rintro ⟨comment, equal⟩
      obtain ⟨source, r, documents, -⟩ := h.comment?_eq_some_iff.mp equal
      exact ⟨source, r, documents⟩
    · rintro ⟨source, r, documents⟩
      exact ⟨_, h.comment?_eq_some_iff.mpr ⟨source, r, documents, rfl⟩⟩
  · intro source r documents
    refine ⟨_, own.trans (h.comment?_eq_some_iff.mpr ⟨source, r, documents, rfl⟩), rfl, ?_⟩
    exact intercalate_lines_ofText r.text (lines.position r.point)

end Visit

namespace Tree

/-- Line remarks reach no further than to the first part that is none. -/
theorem length_le_of_append_eq {between between' below below' : List Tree} {tree tree' : Tree}
    (h : between ++ tree :: below = between' ++ tree' :: below')
    (isLine : ∀ part ∈ between', ∃ line, part = remark line ∧ line.isBlock = false)
    (declared : tree.isDeclaration = true) : between'.length ≤ between.length := by
  obtain ⟨more, rfl, rest⟩ | ⟨more, rfl, -⟩ := List.append_eq_append_iff.mp h
  · cases more with
    | nil => simp
    | cons first others =>
        obtain ⟨rfl, -⟩ := List.cons.inj rest
        obtain ⟨line, rfl, -⟩ := isLine tree (by simp)
        cases declared
  · simp

theorem part?_behind {trees above between below : List Tree} {first tree : Tree} {front : List Nat}
    (h : partsAt? trees front = some (above ++ first :: (between ++ tree :: below))) :
    part? trees (front ++ [above.length + (between.length + 1)]) = some tree := by
  have parts : partsAt? trees front = some ((above ++ first :: between) ++ tree :: below) := by
    rw [h, List.append_assoc, List.cons_append]
  simpa using part?_concat parts

/-- A remark documents at most one declaration. -/
theorem Documents.unique {trees : List Tree} {source first second : List Nat} {r r' : Remark}
    (h : Documents trees source r first) (h' : Documents trees source r' second)
    (declared : (part? trees first).any isDeclaration = true)
    (declared' : (part? trees second).any isDeclaration = true) : first = second := by
  obtain ⟨-, front, above, between, tree, below, reached, isLine, rfl, rfl⟩ := h
  obtain ⟨-, front', above', between', tree', below', reached', isLine', same, rfl⟩ := h'
  obtain ⟨rfl, index⟩ := List.append_singleton_inj.mp same
  rw [part?_behind reached, Option.any_some] at declared
  rw [part?_behind reached', Option.any_some] at declared'
  obtain ⟨rfl, parts⟩ :=
    List.append_inj (Option.some.inj (reached.symm.trans reached')) index
  have parts := (List.cons.inj parts).2
  have length : between.length = between'.length :=
    Nat.le_antisymm (length_le_of_append_eq parts.symm isLine declared')
      (length_le_of_append_eq parts isLine' declared)
  rw [length]

def declarationPlaces (trees : List Tree) : List (List Nat) :=
  (placesFrom 0 trees).filter fun place => (part? trees place).any isDeclaration

theorem mem_declarationPlaces {trees : List Tree} {place : List Nat} :
    place ∈ declarationPlaces trees ↔
      ∃ tree, part? trees place = some tree ∧ tree.isDeclaration = true := by
  rw [declarationPlaces, List.mem_filter]
  constructor
  · intro h
    exact (Option.any_eq_true _ _).mp h.2
  · rintro ⟨tree, found, declared⟩
    refine ⟨?_, (Option.any_eq_true _ _).mpr ⟨tree, found, declared⟩⟩
    obtain ⟨front, above, below, reached, rfl⟩ := exists_of_part? found
    exact concat_mem_placesFrom reached

theorem pairwise_declarationPlaces (trees : List Tree) :
    (declarationPlaces trees).Pairwise (· < ·) :=
  (pairwise_placesFrom 0 trees).filter _

end Tree

namespace File

/-- The declarations that are read off the walk stand at the places of declarations, one by one. -/
theorem forall₂_declarations (lines : Lines) (parts : List Tree) :
    List.Forall₂ (Declaration.StandsAt lines (Tree.allWithRemarks parts))
      (Tree.declarationPlaces (Tree.allWithRemarks parts)) (ofParts lines parts).declarations := by
  have walked := Visit.forall₂_walk (Header.ofParts parts) (Tree.allWithRemarks parts)
  rw [Tree.declarationPlaces, ← List.filterMap_eq_filter]
  refine List.rel_filterMap (fun place visit inPlace => ?_) walked
  -- A visit gives a declaration if and only if its place is kept.
  rw [Option.guard, inPlace.part?, Option.any_some,
    ← visit.isSome_declaration? lines (Header.ofParts parts)]
  cases found : visit.declaration? lines (Header.ofParts parts) with
  | none => exact .none
  | some declaration => exact .some (inPlace.standsAt found)

/-- Every named method and constructor is declared once, in the order of the text, with the comment
that documents it, if there is one; and no remark is the comment of two declarations. -/
theorem comment_documents_at_most_one (lines : Lines) (parts : List Tree) :
    ∃ places : List (List Nat), places.Pairwise (· < ·) ∧
      (∀ place, place ∈ places ↔ ∃ tree, Tree.part? (Tree.allWithRemarks parts) place = some tree ∧
        tree.isDeclaration = true) ∧
      List.Forall₂ (Declaration.StandsAt lines (Tree.allWithRemarks parts)) places
        (ofParts lines parts).declarations ∧
      ∀ first ∈ places, ∀ second ∈ places, ∀ source r r',
        Tree.Documents (Tree.allWithRemarks parts) source r first →
        Tree.Documents (Tree.allWithRemarks parts) source r' second → first = second := by
  refine ⟨Tree.declarationPlaces (Tree.allWithRemarks parts), Tree.pairwise_declarationPlaces _,
    fun place => Tree.mem_declarationPlaces, forall₂_declarations lines parts, ?_⟩
  intro first here second there source r r' documents documents'
  apply documents.unique documents'
  · exact (List.mem_filter.mp here).2
  · exact (List.mem_filter.mp there).2

end File

end JavadocAudit.Source

import JavadocAudit.FileCheck
import JavadocAudit.Proofs.ClassTable.Lookup
import JavadocAudit.Proofs.Text.Line
import Mathlib.Data.List.Nodup
import Mathlib.Data.String.Basic

/-!
# The source files below a directory

A directory that is named stands for the source files below it. They are listed by going down the
tree, and looked up by following a path from its root, and the two agree: what is listed is what can
be found. Names in a directory differ, so no path is listed twice, and the listing is in strict
order once it is sorted. The order compares names and not texts: a slash is no character of a name,
so what stands in a directory is not torn apart by a name that goes on with a character before it.
-/

namespace JavadocAudit

namespace FileTree

/-- The names in every directory differ, and none of them leads upwards. -/
inductive Proper : FileTree → Prop
  | file (content : List UInt8) : Proper (file content)
  | folder {children : List (String × FileTree)} (distinct : (children.map Prod.fst).Nodup)
      (downward : ".." ∉ children.map Prod.fst) (parts : ∀ child ∈ children, Proper child.2) :
      Proper (folder children)

section Folder

variable {children : List (String × FileTree)} (proper : Proper (.folder children))
include proper

theorem Proper.distinct : (children.map Prod.fst).Nodup := by
  cases proper with
  | folder distinct => exact distinct

theorem Proper.downward : ".." ∉ children.map Prod.fst := by
  cases proper with
  | folder _ downward => exact downward

theorem Proper.parts : ∀ child ∈ children, child.2.Proper := by
  cases proper with
  | folder _ _ parts => exact parts

end Folder

section Lookup

variable {children : List (String × FileTree)} {name : String} {child : FileTree}

theorem lookup_eq_some_iff (distinct : (children.map Prod.fst).Nodup) :
    children.lookup name = some child ↔ (name, child) ∈ children :=
  Dict.get?_eq_some_iff distinct

theorem mem_of_lookup (found : children.lookup name = some child) : (name, child) ∈ children := by
  obtain ⟨front, back, rfl, -⟩ := List.lookup_eq_some_iff.mp found
  simp

end Lookup

section Walk

variable {above : List FileTree} {tree found : FileTree} {path rest : List String}

/-- On the way down it does not matter where a path started. -/
theorem walk_of_downward (downward : ".." ∉ path) (above : List FileTree) (tree : FileTree) :
    walk above tree path = walk [] tree path := by
  induction path generalizing above tree with
  | nil => rfl
  | cons name rest ih =>
      obtain ⟨here, later⟩ : name ≠ ".." ∧ ".." ∉ rest := by
        simpa [eq_comm] using downward
      cases tree with
      | file content => rfl
      | folder children =>
          simp only [walk, if_neg here]
          split
          · rfl
          · next child _ => rw [ih later, ih later [folder children]]

/-- A path that goes on downwards from what was found. -/
theorem walk_append (reached : walk above tree path = .ok found) (downward : ".." ∉ rest) :
    walk above tree (path ++ rest) = walk [] found rest := by
  fun_induction walk above tree path with
  | case1 above tree =>
      obtain rfl := Except.ok.inj reached
      exact walk_of_downward downward above tree
  | case2 => cases reached
  | case3 more children ih => simpa [walk] using ih reached
  | case4 more children parent others ih => simpa [walk] using ih reached
  | case5 => cases reached
  | case6 above name more children down child here ih =>
      simpa [walk, down, here] using ih reached

/-- What passes from a directory to all that it contains holds wherever a path leads. -/
theorem of_walk {P : FileTree → Prop}
    (passes : ∀ children, P (folder children) → ∀ child ∈ children, P child.2) (start : P tree)
    (around : ∀ outer ∈ above, P outer) (reached : walk above tree path = .ok found) :
    P found := by
  fun_induction walk above tree path with
  | case1 => exact Except.ok.inj reached ▸ start
  | case2 => cases reached
  | case3 more children ih => exact ih start around reached
  | case4 more children parent others ih =>
      obtain ⟨outer, farther⟩ := List.forall_mem_cons.mp around
      exact ih outer farther reached
  | case5 => cases reached
  | case6 above name more children down child here ih =>
      exact ih (passes children start _ (mem_of_lookup here))
        (List.forall_mem_cons.mpr ⟨start, around⟩) reached

end Walk

section Descendants

variable {tree : FileTree} {children : List (String × FileTree)} {path : List String}

/-- The paths from one entry of a directory on. -/
def entryPaths (entry : String × FileTree) : List (List String) :=
  [entry.1] :: entry.2.descendants.map (entry.1 :: ·)

theorem descendantsOf_eq_flatMap (children : List (String × FileTree)) :
    descendantsOf children = children.flatMap entryPaths := by
  induction children with
  | nil => rfl
  | cons entry rest ih => rw [descendantsOf, ih, List.flatMap_cons, entryPaths]

theorem mem_entryPaths_iff {entry : String × FileTree} :
    path ∈ entryPaths entry ↔
      ∃ rest, path = entry.1 :: rest ∧ (rest = [] ∨ rest ∈ entry.2.descendants) := by
  rw [entryPaths, List.mem_cons, List.mem_map]
  constructor
  · rintro (rfl | ⟨rest, below, rfl⟩)
    · exact ⟨[], rfl, .inl rfl⟩
    · exact ⟨rest, rfl, .inr below⟩
  · rintro ⟨rest, rfl, rfl | below⟩
    · exact .inl rfl
    · exact .inr ⟨rest, below, rfl⟩

/-- What is listed below a directory is what can be found on the way down from it. -/
theorem mem_descendants_iff (proper : tree.Proper) :
    path ∈ tree.descendants ↔
      path ≠ [] ∧ ".." ∉ path ∧ ∃ found, walk [] tree path = .ok found := by
  induction proper generalizing path with
  | file content =>
      cases path with
      | nil => simp [descendants]
      | cons name rest => simp [descendants, walk]
  | @folder children distinct downward parts ih =>
      rw [descendants, descendantsOf_eq_flatMap, List.mem_flatMap]
      constructor
      · rintro ⟨⟨name, child⟩, member, listed⟩
        obtain ⟨rest, rfl, below⟩ := mem_entryPaths_iff.mp listed
        have named : name ≠ ".." := by
          rintro rfl
          exact downward (List.mem_map_of_mem member)
        have step :
            walk [] (folder children) (name :: rest) = walk [folder children] child rest := by
          simp [walk, named, (lookup_eq_some_iff distinct).mpr member]
        refine ⟨List.cons_ne_nil _ _, ?_⟩
        rw [step, List.mem_cons, not_or]
        obtain rfl | below := below
        · exact ⟨⟨named.symm, List.not_mem_nil⟩, child, rfl⟩
        · obtain ⟨-, later, found, reached⟩ := (ih _ member).mp below
          exact ⟨⟨named.symm, later⟩, found, by rw [walk_of_downward later, reached]⟩
      · rintro ⟨nonempty, onward, found, reached⟩
        obtain ⟨name, rest, rfl⟩ := List.exists_cons_of_ne_nil nonempty
        rw [List.mem_cons, not_or] at onward
        rw [walk, if_neg (Ne.symm onward.1)] at reached
        split at reached
        · cases reached
        · next child here =>
            have member := mem_of_lookup here
            refine ⟨(name, child), member, mem_entryPaths_iff.mpr ⟨rest, rfl, ?_⟩⟩
            rw [walk_of_downward onward.2] at reached
            by_cases last : rest = []
            · exact .inl last
            · exact .inr ((ih _ member).mpr ⟨last, onward.2, found, reached⟩)

/-- Nothing is listed twice. -/
theorem nodup_descendants (proper : tree.Proper) : tree.descendants.Nodup := by
  induction proper with
  | file content => exact List.nodup_nil
  | @folder children distinct downward parts ih =>
      rw [descendants, descendantsOf_eq_flatMap, List.nodup_flatMap]
      constructor
      · intro entry member
        rw [entryPaths, List.nodup_cons]
        constructor
        · intro below
          obtain ⟨rest, listed, same⟩ := List.mem_map.mp below
          obtain rfl : rest = [] := by simpa using same
          exact ((mem_descendants_iff (parts entry member)).mp listed).1 rfl
        · exact (ih entry member).map fun _ _ same => (List.cons.inj same).2
      · -- The paths from different entries on start with different names.
        apply (List.pairwise_map.mp distinct).imp
        intro first second apart path listed listed'
        obtain ⟨rest, rfl, -⟩ := mem_entryPaths_iff.mp listed
        obtain ⟨rest', same, -⟩ := mem_entryPaths_iff.mp listed'
        exact apart (List.cons.inj same).1

end Descendants

section Growth

variable {tree : FileTree} {children : List (String × FileTree)} {name : String}

theorem mem_put {child : FileTree} {entry : String × FileTree}
    (member : entry ∈ put children name child) : entry = (name, child) ∨ entry ∈ children := by
  fun_induction put children name child with
  | case1 => exact .inl (List.mem_singleton.mp member)
  | case2 child rest =>
      exact (List.mem_cons.mp member).imp_right (List.mem_cons_of_mem _)
  | case3 n other rest apart ih =>
      obtain rfl | later := List.mem_cons.mp member
      · exact .inr List.mem_cons_self
      · exact (ih later).imp_right (List.mem_cons_of_mem _)

theorem nodup_put (distinct : (children.map Prod.fst).Nodup) (child : FileTree) :
    ((put children name child).map Prod.fst).Nodup := by
  fun_induction put children name child with
  | case1 => simp
  | case2 child rest => exact distinct
  | case3 n other rest apart ih =>
      rw [List.map_cons, List.nodup_cons] at distinct ⊢
      refine ⟨?_, ih distinct.2⟩
      intro member
      obtain ⟨entry, inside, rfl⟩ := List.mem_map.mp member
      obtain rfl | inside := mem_put inside
      · exact apart rfl
      · exact distinct.1 (List.mem_map.mpr ⟨entry, inside, rfl⟩)

theorem proper_empty : Proper (.folder []) := .folder (by simp) (by simp) (by simp)

theorem Proper.put {child : FileTree} (proper : Proper (.folder children)) (named : name ≠ "..")
    (own : child.Proper) : Proper (.folder (FileTree.put children name child)) := by
  refine .folder (nodup_put proper.distinct child) ?_ ?_
  · intro member
    obtain ⟨entry, inside, up⟩ := List.mem_map.mp member
    obtain rfl | inside := mem_put inside
    · exact named up
    · exact proper.downward (List.mem_map.mpr ⟨entry, inside, up⟩)
  · intro entry inside
    obtain rfl | inside := mem_put inside
    · exact own
    · exact proper.parts entry inside

/-- A tree stays proper when something is added at a path that leads downwards. -/
theorem Proper.insert {path : List String} (proper : tree.Proper) (downward : ".." ∉ path)
    (content : Option (List UInt8)) : (tree.insert path content).Proper := by
  induction path generalizing tree with
  | nil =>
      cases content with
      | some content => exact .file content
      | none =>
          cases tree with
          | file => exact proper_empty
          | folder => exact proper
  | cons name rest ih =>
      obtain ⟨here, later⟩ : name ≠ ".." ∧ ".." ∉ rest := by
        simpa [eq_comm] using downward
      have added {children : List (String × FileTree)} (proper : Proper (.folder children)) :
          Proper (.folder (FileTree.put children name
            (FileTree.insert rest content ((children.lookup name).getD (.folder []))))) := by
        refine proper.put here (ih ?_ later)
        cases found : children.lookup name with
        | none => exact proper_empty
        | some child => exact proper.parts _ (mem_of_lookup found)
      cases tree with
      | file => exact added proper_empty
      | folder children => exact added proper

end Growth

theorem find_eq_ok_iff {tree found : FileTree} {path : Path} :
    tree.fileSystem.find path = .ok found ↔
      path.root = "" ∧ walk [] tree path.parts = .ok found := by
  simp only [fileSystem]
  by_cases relative : path.root = ""
  · cases walk [] tree path.parts <;> simp [relative]
  · simp [relative]

/-- What is found below a directory of a tree is found by going on from the directory. -/
theorem find_append_eq_ok_iff {tree found entry : FileTree} {directory : Path}
    {parts : List String} (here : tree.fileSystem.find directory = .ok found)
    (downward : ".." ∉ parts) :
    tree.fileSystem.find (directory.append parts) = .ok entry ↔
      walk [] found parts = .ok entry := by
  obtain ⟨relative, reached⟩ := find_eq_ok_iff.mp here
  rw [find_eq_ok_iff, Path.append, walk_append reached downward]
  exact and_iff_right relative

end FileTree

namespace Path

end Path

theorem FileSystem.folder?_eq_some_iff {files : FileSystem} {path : Path}
    {children : List (String × FileTree)} :
    files.folder? path = .ok (some children) ↔ files.find path = .ok (.folder children) := by
  unfold folder?
  rcases files.find path with (fault | _) | (content | own)
  · by_cases nowhere : fault.leadsNowhere = true <;> simp [nowhere]
  · simp
  · simp
  · simp

/-- No name below a directory has a null character. -/
def FileTree.NullFree (tree : FileTree) : Prop :=
  ∀ parts ∈ tree.descendants, ∀ name ∈ parts, '\x00' ∉ name.toList

namespace FileTree

variable {tree : FileTree}

theorem NullFree.parts {children : List (String × FileTree)} (free : (folder children).NullFree) :
    ∀ child ∈ children, child.2.NullFree := by
  intro child member parts below name inside
  rw [NullFree, descendants, descendantsOf_eq_flatMap] at free
  have listed : child.1 :: parts ∈ children.flatMap entryPaths :=
    List.mem_flatMap.mpr ⟨child, member, mem_entryPaths_iff.mpr ⟨parts, rfl, .inr below⟩⟩
  exact free _ listed name (List.mem_cons_of_mem child.1 inside)

end FileTree

/-- Something stands at a path that leads downwards from a directory. -/
def FileSystem.HasBelow (files : FileSystem) (directory path : Path) : Prop :=
  ∃ parts, parts ≠ [] ∧ ".." ∉ parts ∧ path = directory.append parts ∧
    ∃ found, files.find path = .ok found

namespace FileCheck

section Order

/-- Names in the order of the code points of their characters. -/
def NameBefore (first second : String) : Prop :=
  List.Lex (fun c d => c.toNat < d.toNat) first.toList second.toList

theorem nameBefore_iff_lt {first second : String} : NameBefore first second ↔ first < second := by
  rw [String.lt_iff_toList_lt, ← List.lex_lt]
  rfl

theorem before_cons_cons {a b : String} {as bs : List String} :
    before (a :: as) (b :: bs) = true ↔ a < b ∨ (a = b ∧ before as bs = true) := by
  rw [before]
  split
  · next same => simp [same]
  · next apart => simp [apart]

theorem before_trans (first second third : List String) (h : before first second = true)
    (h' : before second third = true) : before first third = true := by
  induction first generalizing second third with
  | nil => rfl
  | cons a as ih =>
      cases second with
      | nil => cases h
      | cons b bs =>
          cases third with
          | nil => cases h'
          | cons c cs =>
              rw [before_cons_cons] at h h' ⊢
              obtain lt | ⟨rfl, le⟩ := h
              · obtain lt' | ⟨rfl, -⟩ := h'
                · exact .inl (lt_trans lt lt')
                · exact .inl lt
              · exact h'.imp_right fun ⟨same, le'⟩ => ⟨same, ih bs cs le le'⟩

theorem before_total (first second : List String) :
    (before first second || before second first) = true := by
  rw [Bool.or_eq_true]
  induction first generalizing second with
  | nil => exact .inl rfl
  | cons a as ih =>
      cases second with
      | nil => exact .inr rfl
      | cons b bs =>
          rw [before_cons_cons, before_cons_cons]
          obtain lt | rfl | gt := lt_trichotomy a b
          · exact .inl (.inl lt)
          · exact (ih bs).imp (fun le => .inr ⟨rfl, le⟩) fun le => .inr ⟨rfl, le⟩
          · exact .inr (.inl gt)

/-- Different paths that are in order are in strict order, name by name. -/
theorem lex_of_before {first second : List String} (h : before first second = true)
    (apart : first ≠ second) : List.Lex NameBefore first second := by
  induction first generalizing second with
  | nil =>
      obtain ⟨b, bs, rfl⟩ := List.exists_cons_of_ne_nil (Ne.symm apart)
      exact .nil
  | cons a as ih =>
      cases second with
      | nil => cases h
      | cons b bs =>
          obtain lt | ⟨rfl, le⟩ := before_cons_cons.mp h
          · exact .rel (nameBefore_iff_lt.mpr lt)
          · exact .cons (ih le fun same => apart (by rw [same]))

theorem before_of_lex {first second : List String} (h : List.Lex NameBefore first second) :
    before first second = true := by
  induction h with
  | nil => rfl
  | cons _ ih => exact before_cons_cons.mpr (.inr ⟨rfl, ih⟩)
  | rel lt => exact before_cons_cons.mpr (.inl (nameBefore_iff_lt.mp lt))

/-- Of two members of a list in order that are not the other way round, the first comes first. -/
theorem pair_sublist_of_pairwise {α : Type} {R : α → α → Prop} {list : List α} {a b : α}
    (sorted : list.Pairwise R) (first : a ∈ list) (second : b ∈ list) (apart : a ≠ b)
    (notReversed : ¬ R b a) : [a, b].Sublist list := by
  obtain ⟨front, back, rfl⟩ := List.append_of_mem first
  rw [List.pairwise_append] at sorted
  obtain before | rfl | later : b ∈ front ∨ b = a ∨ b ∈ back := by simpa using second
  · exact absurd (sorted.2.2 b before a List.mem_cons_self) notReversed
  · exact absurd rfl apart
  · exact ((List.singleton_sublist.mpr later).cons_cons a).trans (List.sublist_append_right front _)

theorem lex_append_left {first second : List String} (h : List.Lex NameBefore first second)
    (front : List String) : List.Lex NameBefore (front ++ first) (front ++ second) := by
  induction front with
  | nil => exact h
  | cons name rest ih => exact .cons ih

end Order

section Listing

variable {files : FileSystem} {directory path : Path} {children : List (String × FileTree)}

def IsSourceName (name : String) : Prop := name.endsWith ".java" = true

instance : DecidablePred IsSourceName := fun name =>
  inferInstanceAs (Decidable (name.endsWith ".java" = true))

/-- The paths below a directory that are listed as source files, before they are sorted. -/
def sourceParts (children : List (String × FileTree)) : List (List String) :=
  (FileTree.descendantsOf children).filter fun parts => parts.getLast?.any (·.endsWith ".java")

/-- The source files below a directory in the order in which they are listed. -/
def sourcesBelow (directory : Path) (children : List (String × FileTree)) : List Path :=
  ((sourceParts children).mergeSort before).map directory.append

theorem sourcesAt_folder (found : files.find directory = .ok (.folder children)) :
    sourcesAt files directory = .ok (sourcesBelow directory children) := by
  rw [sourcesAt, FileSystem.folder?_eq_some_iff.mpr found]
  rfl

theorem sources_singleton (name : String) :
    sources files [name] = sourcesAt files (.ofString name) := by
  rw [sources, sources]
  cases sourcesAt files (.ofString name) with
  | error fault => rfl
  | ok paths => exact congrArg Except.ok (List.append_nil paths)

/-- Several paths stand for what each of them stands for, one after the other. -/
theorem sources_append (files : FileSystem) (p q : List String) :
    sources files (p ++ q) = do return (← sources files p) ++ (← sources files q) := by
  induction p with
  | nil => cases listed : sources files q <;> simp [sources, listed]
  | cons name names ih =>
      rw [List.cons_append, sources, sources, ih]
      cases sourcesAt files (.ofString name) with
      | error fault => rfl
      | ok first =>
          cases sources files names with
          | error fault => rfl
          | ok second =>
              cases sources files q with
              | error fault => rfl
              | ok third => exact congrArg Except.ok (List.append_assoc ..).symm

theorem append_injective (directory : Path) : Function.Injective directory.append := by
  intro parts parts' same
  exact List.append_cancel_left (congrArg Path.parts same)

theorem getLast?_append_parts {parts : List String} (nonempty : parts ≠ []) :
    (directory.append parts).parts.getLast? = parts.getLast? := by
  rw [Path.append, List.getLast?_append_of_ne_nil _ nonempty]

theorem mem_sourcesBelow_iff :
    path ∈ sourcesBelow directory children ↔
      ∃ parts ∈ FileTree.descendantsOf children, path = directory.append parts ∧
        ∃ name, parts.getLast? = some name ∧ IsSourceName name := by
  rw [sourcesBelow, List.mem_map]
  simp only [List.mem_mergeSort, sourceParts, List.mem_filter, Option.any_eq_true, IsSourceName]
  constructor
  · rintro ⟨parts, ⟨listed, named⟩, rfl⟩
    exact ⟨parts, listed, rfl, named⟩
  · rintro ⟨parts, listed, rfl, named⟩
    exact ⟨parts, ⟨listed, named⟩, rfl⟩

theorem nodup_sourceParts (proper : FileTree.Proper (.folder children)) :
    (sourceParts children).Nodup :=
  (FileTree.nodup_descendants proper).filter _

/-- The source files below a directory are listed in strict order. -/
theorem pairwise_sourcesBelow (proper : FileTree.Proper (.folder children)) :
    (sourcesBelow directory children).Pairwise fun first second =>
      List.Lex NameBefore first.parts second.parts := by
  have sorted : ((sourceParts children).mergeSort before).Pairwise fun first second =>
      before first second = true :=
    List.pairwise_mergeSort before_trans before_total _
  have distinct : ((sourceParts children).mergeSort before).Nodup :=
    (List.mergeSort_perm _ _).nodup_iff.mpr (nodup_sourceParts proper)
  rw [sourcesBelow, List.pairwise_map]
  apply List.Pairwise.imp₂ _ sorted distinct
  intro first second h apart
  exact lex_append_left (lex_of_before h apart) directory.parts

theorem nodup_sourcesBelow (proper : FileTree.Proper (.folder children)) :
    (sourcesBelow directory children).Nodup := by
  apply List.Nodup.map (append_injective directory)
  exact (List.mergeSort_perm _ _).nodup_iff.mpr (nodup_sourceParts proper)

end Listing

section Names

variable {files : FileSystem} {names : List String} {path : Path} {paths : List Path}

end Names

/-- A directory stands for all that is below it at any depth and has the name of a source file, each
path once and in strict order of the names on it. Several paths stand for what each of them stands
for, one after the other. -/
theorem sources_lose_and_repeat_nothing {tree : FileTree} (proper : tree.Proper) {name : String}
    {children : List (String × FileTree)}
    (found : tree.fileSystem.find (.ofString name) = .ok (.folder children)) :
    (∃ paths, sources tree.fileSystem [name] = .ok paths ∧
      (∀ path, path ∈ paths ↔
        tree.fileSystem.HasBelow (.ofString name) path ∧
          ∃ last, path.parts.getLast? = some last ∧ IsSourceName last) ∧
      paths.Nodup ∧
      paths.Pairwise fun first second => List.Lex NameBefore first.parts second.parts) ∧
    ∀ (files : FileSystem) (p q : List String),
      sources files (p ++ q) = do return (← sources files p) ++ (← sources files q) := by
  have below : FileTree.Proper (.folder children) :=
    FileTree.of_walk (fun _ => FileTree.Proper.parts) proper (by simp)
      (FileTree.find_eq_ok_iff.mp found).2
  refine ⟨⟨sourcesBelow (.ofString name) children, ?_, fun path => ?_, nodup_sourcesBelow below,
    pairwise_sourcesBelow below⟩, sources_append⟩
  · rw [sources_singleton, sourcesAt_folder found]
  · rw [mem_sourcesBelow_iff]
    constructor
    · rintro ⟨parts, listed, rfl, named⟩
      obtain ⟨nonempty, downward, entry, reached⟩ := (FileTree.mem_descendants_iff below).mp listed
      refine ⟨⟨parts, nonempty, downward, rfl, entry, ?_⟩, ?_⟩
      · rwa [FileTree.find_append_eq_ok_iff found downward]
      · rwa [getLast?_append_parts nonempty]
    · rintro ⟨⟨parts, nonempty, downward, rfl, entry, reached⟩, named⟩
      rw [FileTree.find_append_eq_ok_iff found downward] at reached
      rw [getLast?_append_parts nonempty] at named
      exact ⟨parts, (FileTree.mem_descendants_iff below).mpr ⟨nonempty, downward, entry, reached⟩,
        rfl, named⟩

/-- A directory with a hidden source file, a directory that is called like a source file, and names
that go on with a character before the slash. -/
def mixedTree : FileTree :=
  ((((((FileTree.folder []).insert ["src", "a", "z.java"] (some [])).insert
    ["src", "a-", "x.java"] (some [])).insert ["src", "a.java"] (some [])).insert
    ["src", ".h", ".java"] (some [])).insert ["src", "d.java"] none).insert
    ["src", "notes.txt"] (some [])

theorem proper_mixedTree : mixedTree.Proper :=
  (((((FileTree.proper_empty.insert (by decide) _).insert (by decide) _).insert (by decide)
    _).insert (by decide) _).insert (by decide) _).insert (by decide) _

/-- What stands in `a` comes before what stands in `a-`, in the order of names and not of texts. -/
theorem sources_mixedTree :
    ∃ children paths, mixedTree.fileSystem.find (.ofString "src/") = .ok (.folder children) ∧
      sources mixedTree.fileSystem ["src/"] = .ok paths ∧
      ⟨"", ["src", ".h", ".java"]⟩ ∈ paths ∧ ⟨"", ["src", "d.java"]⟩ ∈ paths ∧
      ⟨"", ["src", "notes.txt"]⟩ ∉ paths ∧ paths.Nodup ∧
      [⟨"", ["src", "a", "z.java"]⟩, ⟨"", ["src", "a-", "x.java"]⟩].Sublist paths ∧
      Path.toString ⟨"", ["src", "a-", "x.java"]⟩ < Path.toString ⟨"", ["src", "a", "z.java"]⟩ := by
  have path : Path.ofString "src/" = ⟨"", ["src"]⟩ := by decide
  obtain ⟨children, found⟩ : ∃ children,
      mixedTree.fileSystem.find (.ofString "src/") = .ok (.folder children) := by
    rw [path]
    exact ⟨_, rfl⟩
  obtain ⟨⟨paths, computed, listed, distinct, sorted⟩, -⟩ :=
    sources_lose_and_repeat_nothing proper_mixedTree found
  rw [path] at listed
  refine ⟨children, paths, found, computed, ?_, ?_, ?_, distinct, ?_, by decide +kernel⟩
  · rw [listed]
    exact ⟨⟨[".h", ".java"], by decide, by decide, rfl, .file [], rfl⟩, ".java", rfl,
      by decide +kernel⟩
  · rw [listed]
    exact ⟨⟨["d.java"], by decide, by decide, rfl, .folder [], rfl⟩, "d.java", rfl,
      by decide +kernel⟩
  · rw [listed]
    rintro ⟨-, last, named, isSource⟩
    obtain rfl : "notes.txt" = last := Option.some.inj named
    exact absurd isSource (by decide +kernel)
  · have first : ⟨"", ["src", "a", "z.java"]⟩ ∈ paths := by
      rw [listed]
      exact ⟨⟨["a", "z.java"], by decide, by decide, rfl, .file [], rfl⟩, "z.java", rfl,
        by decide +kernel⟩
    have second : ⟨"", ["src", "a-", "x.java"]⟩ ∈ paths := by
      rw [listed]
      exact ⟨⟨["a-", "x.java"], by decide, by decide, rfl, .file [], rfl⟩, "x.java", rfl,
        by decide +kernel⟩
    refine pair_sublist_of_pairwise sorted first second (by decide) fun reversed => ?_
    exact absurd (before_of_lex reversed) (by decide +kernel)

end FileCheck

end JavadocAudit

import JavadocAudit.ClassTable.Standard
import JavadocAudit.Proofs.ClassTable.Reachability
import JavadocAudit.Source.File

/-!
# The classes that a file declares

The table of a file is made in two passes. The first one adds the names of all types that the file
declares, the second one their superclasses, which are looked up in what the first one knows. So a
superclass can be declared behind the type that extends it, and the order of the types is of no
importance. Both passes know the same names. Since a name that stands for no class is not the name
of one, a superclass that is kept as written leads nowhere.
-/

namespace JavadocAudit.Source

namespace DeclaredType

variable {type : DeclaredType} {known other table : ClassTable}

/-- The superclass of a type: what its clause stands for, or the clause as written. -/
def link (known : ClassTable) (type : DeclaredType) : Option String :=
  type.superclass.map fun written =>
    ((known.resolve written (some type.scope)).map ClassInfo.name).getD written

/-- The superclass of a type hangs on nothing but the names that are known. -/
theorem link_congr (same : ∀ name, known.knows name = true ↔ other.knows name = true)
    (type : DeclaredType) : type.link known = type.link other := by
  simp only [link, ClassTable.map_name_resolve_congr same]

/-- A type is linked to what its clause stands for among the known classes. A clause that stands for
none of them is a dead end: neither the type nor the name in the clause is a subtype of a class that
the table has, but for the type of itself. -/
structure IsLinked (type : DeclaredType) (known table : ClassTable) : Prop where
  noClause : type.superclass = none → table.superclass? type.name = some none
  found : ∀ written info, type.superclass = some written →
    known.resolve written (some type.scope) = some info →
    table.superclass? type.name = some (some info.name) ∧ table.knows info.name = true
  deadEnd : ∀ written, type.superclass = some written →
    known.resolve written (some type.scope) = none →
    table.superclass? type.name = some (some written) ∧ table.knows written = false ∧
      ∀ sup, table.knows sup = true →
        table.isSubtype written sup = false ∧
          (sup ≠ type.name → table.isSubtype type.name sup = false)

/-- A type is linked if the table has its superclass and knows no other names than those in which
the superclass is looked up. -/
theorem isLinked_of_link (same : ∀ name, table.knows name = true ↔ known.knows name = true)
    (own : table.superclass? type.name = some (type.link known)) : type.IsLinked known table where
  noClause none := by simpa [link, none] using own
  found written info clause resolved := by
    have inTable : table.knows info.name = true :=
      (same info.name).mpr
        (ClassTable.knows_of_superclass? (ClassTable.superclass?_of_resolve resolved))
    exact ⟨by simpa [link, clause, resolved] using own, inTable⟩
  deadEnd written clause unresolved := by
    have step : table.superclass? type.name = some (some written) := by
      simpa [link, clause, unresolved] using own
    have unknown : table.knows written = false := by
      rw [← Bool.not_eq_true, same, Bool.not_eq_true]
      exact ClassTable.knows_eq_false_of_resolve unresolved
    refine ⟨step, unknown, fun sup inTable => ?_⟩
    have above := ClassTable.isSubtype_eq_false_of_deadEnd unknown inTable
    refine ⟨above, fun different => ?_⟩
    have parent : table.parent? type.name = some written := by simp [ClassTable.parent?, step]
    rw [← Bool.not_eq_true, ClassTable.isSubtype_of_parent?_eq_some parent, above]
    simpa using different

end DeclaredType

namespace File

variable {file other : File} {base : ClassTable} {type : DeclaredType} {name : String}

/-- What the first pass knows: the classes of a table, and the names of the types of a file. -/
def declaredNames (file : File) (base : ClassTable) : ClassTable :=
  base.withClasses (Dict.ofList (file.types.map fun type => (type.name, none)))

/-- The names of the types of a file with their superclasses. -/
def links (file : File) (base : ClassTable) : Dict String (Option String) :=
  file.types.map fun type => (type.name, type.link (file.declaredNames base))

theorem classTable_eq (file : File) (base : ClassTable) :
    file.classTable base = base.withClasses (Dict.ofList (file.links base)) := rfl

theorem map_fst_links (file : File) (base : ClassTable) :
    (file.links base).map Prod.fst = file.types.map DeclaredType.name := by
  simp [links]

theorem knows_declaredNames_iff :
    (file.declaredNames base).knows name = true ↔
      base.knows name = true ∨ name ∈ file.types.map DeclaredType.name := by
  simp [declaredNames, ClassTable.knows_withClasses]

theorem knows_classTable_iff :
    (file.classTable base).knows name = true ↔
      base.knows name = true ∨ name ∈ file.types.map DeclaredType.name := by
  rw [classTable_eq, ClassTable.knows_withClasses, map_fst_links]

section Distinct

variable (distinct : (file.types.map DeclaredType.name).Nodup)

include distinct

theorem superclass?_classTable (name : String) :
    (file.classTable base).superclass? name =
      (Dict.get? (file.links base) name).or (base.superclass? name) := by
  rw [← map_fst_links file base] at distinct
  exact Dict.get?_merge_ofList distinct base.classes name

theorem superclass?_of_mem (member : type ∈ file.types) :
    (file.classTable base).superclass? type.name = some (type.link (file.declaredNames base)) := by
  have own : Dict.get? (file.links base) type.name =
      some (type.link (file.declaredNames base)) := by
    rw [Dict.get?_eq_some_iff (by rwa [map_fst_links])]
    exact List.mem_map_of_mem member
  rw [superclass?_classTable distinct, own, Option.some_or]

end Distinct

/-- Types in another order have the same links in another order. -/
theorem perm_links (same : other.types.Perm file.types) (base : ClassTable) :
    (other.links base).Perm (file.links base) := by
  have names : ∀ name, (other.declaredNames base).knows name = true ↔
      (file.declaredNames base).knows name = true := by
    intro name
    rw [knows_declaredNames_iff, knows_declaredNames_iff, (same.map DeclaredType.name).mem_iff]
  have links : other.links base =
      other.types.map fun type => (type.name, type.link (file.declaredNames base)) := by
    simp only [File.links, DeclaredType.link_congr names]
  rw [links]
  exact same.map _

theorem superclass?_eq_of_perm (distinct : (file.types.map DeclaredType.name).Nodup)
    (same : other.types.Perm file.types) (base : ClassTable) (name : String) :
    (other.classTable base).superclass? name = (file.classTable base).superclass? name := by
  have distinct' : (other.types.map DeclaredType.name).Nodup :=
    (same.map DeclaredType.name).symm.nodup distinct
  have links : Dict.get? (other.links base) name = Dict.get? (file.links base) name :=
    Dict.get?_eq_of_perm (by rwa [map_fst_links]) (perm_links same base) name
  rw [superclass?_classTable distinct, superclass?_classTable distinct', links]

/-- A file whose types have different names gives the same table in whatever order it declares
them. The table knows these names beside those it starts from, and links every type to what its
clause stands for where these names are known, in any table that has them. -/
theorem classTable_links_types (base : ClassTable) (file : File)
    (distinct : (file.types.map DeclaredType.name).Nodup) :
    (∀ other : File, other.types.Perm file.types →
      (∀ name, (other.classTable base).superclass? name = (file.classTable base).superclass? name) ∧
        (other.classTable base).resolver = (file.classTable base).resolver) ∧
    (∀ name, (file.classTable base).knows name = true ↔
      base.knows name = true ∨ name ∈ file.types.map DeclaredType.name) ∧
    ∀ known : ClassTable,
      (∀ name, known.knows name = true ↔
        base.knows name = true ∨ name ∈ file.types.map DeclaredType.name) →
      ∀ type ∈ file.types, type.IsLinked known (file.classTable base) := by
  refine ⟨fun other same => ?_, fun name => knows_classTable_iff, fun known names type member => ?_⟩
  · have superclasses := superclass?_eq_of_perm distinct same base
    exact ⟨superclasses, ClassTable.resolver_congr superclasses⟩
  · have sameNames : ∀ name, (file.declaredNames base).knows name = true ↔
        known.knows name = true := fun name => by rw [knows_declaredNames_iff, names]
    have own : (file.classTable base).superclass? type.name = some (type.link known) := by
      rw [superclass?_of_mem distinct member, DeclaredType.link_congr sameNames]
    exact DeclaredType.isLinked_of_link (fun name => by rw [knows_classTable_iff, names]) own

/-- A file that declares a superclass behind the type that extends it, and a type whose superclass
nobody knows. -/
def forwardFile : File where
  types :=
    [⟨"p.First", some "Later", { package := some "p" }⟩,
     ⟨"p.Lost", some "Missing", { package := some "p", onDemand := ["java.io"] }⟩,
     ⟨"p.Later", none, { package := some "p" }⟩]

theorem classTable_links_forwardFile :
    (forwardFile.types.map DeclaredType.name).Nodup ∧
      (forwardFile.classTable (.withStandard [])).superclass? "p.First" = some (some "p.Later") ∧
      (forwardFile.classTable (.withStandard [])).superclass? "p.Lost" = some (some "Missing") ∧
      (forwardFile.classTable (.withStandard [])).isSubtype "p.Lost" "java.lang.Error" = false ∧
      (classTable { types := forwardFile.types.reverse } (.withStandard [])).resolver =
        (forwardFile.classTable (.withStandard [])).resolver := by
  have distinct : (forwardFile.types.map DeclaredType.name).Nodup := by decide
  obtain ⟨order, names, linked⟩ := classTable_links_types (.withStandard []) forwardFile distinct
  have first := linked _ names ⟨"p.First", some "Later", { package := some "p" }⟩
    (by simp [forwardFile])
  have lost := linked _ names
    ⟨"p.Lost", some "Missing", { package := some "p", onDemand := ["java.io"] }⟩
    (by simp [forwardFile])
  obtain ⟨toLater, -⟩ := first.found "Later" ⟨"p.Later", none⟩ rfl (by decide +kernel)
  obtain ⟨toMissing, -, nothing⟩ := lost.deadEnd "Missing" rfl (by decide +kernel)
  obtain ⟨-, above⟩ := nothing "java.lang.Error" (by decide +kernel)
  exact ⟨distinct, toLater, toMissing, above (by decide),
    (order { types := forwardFile.types.reverse } (List.reverse_perm _)).2⟩

end File

end JavadocAudit.Source

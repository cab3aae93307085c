import JavadocAudit.Proofs.ClassTable.Subtyping

/-!
# Adding classes to a table

A table extends another one if it gives every class of it the same superclass. Ways up from class to
class stay what they are in a larger table, so subtypes stay subtypes. The larger table may go on
where the smaller one had to stop, at a superclass that it does not have; a chain that never comes
to such a class is the same in both. A name may stand for another class only if that class is new,
because the classes that were known are known under the same names.

Classes with names that a table does not have extend it.
-/

namespace JavadocAudit.ClassTable

variable {table larger : ClassTable} {sub sup name : String} {scope : Option NameScope}
  {more : Dict String (Option String)}

/-- The larger table gives every class of the other one the same superclass. -/
def Extends (table larger : ClassTable) : Prop :=
  ∀ name superclass, table.superclass? name = some superclass →
    larger.superclass? name = some superclass

/-- The chain of superclasses that starts at a class never comes to a class that is not in the
table, the class itself included. -/
def StaysInside (table : ClassTable) (name : String) : Prop :=
  ∀ steps above, table.ancestor? steps name = some above → table.knows above = true

namespace Extends

theorem superclass?_eq (extension : table.Extends larger) (known : table.knows name = true) :
    larger.superclass? name = table.superclass? name := by
  obtain ⟨superclass, own⟩ := Option.isSome_iff_exists.mp known
  rw [own, extension name superclass own]

theorem knows (extension : table.Extends larger) (known : table.knows name = true) :
    larger.knows name = true := by
  rw [ClassTable.knows, extension.superclass?_eq known]
  exact known

theorem knows_eq_false (extension : table.Extends larger) (unknown : larger.knows name = false) :
    table.knows name = false := by
  by_contra known
  rw [extension.knows (by simpa using known)] at unknown
  cases unknown

section Subtypes

/-- A way up is a way up in the larger table. -/
theorem ancestor? (extension : table.Extends larger) {steps : Nat}
    (reached : table.ancestor? steps sub = some sup) : larger.ancestor? steps sub = some sup := by
  induction steps generalizing sub with
  | zero => exact reached
  | succ steps ih =>
      obtain ⟨parent, step, onward⟩ := Option.bind_eq_some_iff.mp reached
      have step' : larger.parent? sub = some parent :=
        parent?_eq_some_iff.mpr (extension sub _ (parent?_eq_some_iff.mp step))
      rw [ClassTable.ancestor?, step', Option.bind_some]
      exact ih onward

theorem isSubtype (extension : table.Extends larger) (h : table.isSubtype sub sup = true) :
    larger.isSubtype sub sup = true := by
  obtain ⟨steps, reached⟩ := isSubtype_iff.mp h
  exact isSubtype_iff.mpr ⟨steps, extension.ancestor? reached⟩

theorem isUnchecked (extension : table.Extends larger) (h : table.isUnchecked name = true) :
    larger.isUnchecked name = true := by
  obtain ⟨root, member, below⟩ := List.any_eq_true.mp h
  exact List.any_eq_true.mpr ⟨root, member, extension.isSubtype below⟩

/-- From a class whose chain stays in the table, both tables lead to the same classes. -/
theorem ancestor?_eq (extension : table.Extends larger) (inside : table.StaysInside sub)
    (steps : Nat) : larger.ancestor? steps sub = table.ancestor? steps sub := by
  induction steps generalizing sub with
  | zero => rfl
  | succ steps ih =>
      have sameParent : larger.parent? sub = table.parent? sub := by
        rw [parent?, parent?, extension.superclass?_eq (inside 0 sub rfl)]
      rw [ClassTable.ancestor?, ClassTable.ancestor?, sameParent]
      cases step : table.parent? sub with
      | none => rfl
      | some parent =>
          have onward : table.StaysInside parent := by
            intro steps above reached
            refine inside (steps + 1) above ?_
            rw [ClassTable.ancestor?, step, Option.bind_some, reached]
          exact ih onward

theorem isSubtype_eq (extension : table.Extends larger) (inside : table.StaysInside sub)
    (sup : String) : larger.isSubtype sub sup = table.isSubtype sub sup := by
  rw [Bool.eq_iff_iff, isSubtype_iff, isSubtype_iff]
  simp only [extension.ancestor?_eq inside]

theorem isUnchecked_eq (extension : table.Extends larger) (inside : table.StaysInside name) :
    larger.isUnchecked name = table.isUnchecked name := by
  rw [ClassTable.isUnchecked, ClassTable.isUnchecked]
  exact congrArg uncheckedRoots.any (funext (extension.isSubtype_eq inside))

end Subtypes

/-- A name stands for the same class in both tables, or for one that only the larger table has. -/
theorem resolve_eq_or_new (extension : table.Extends larger) (name : String)
    (scope : Option NameScope) :
    larger.resolve name scope = table.resolve name scope ∨
      ∃ info, larger.resolve name scope = some info ∧ table.knows info.name = false := by
  cases found : larger.resolve name scope with
  | none =>
      have unknown := resolve_eq_none_iff.mp found
      have unresolved : table.resolve name scope = none :=
        resolve_eq_none_iff.mpr fun candidate member =>
          extension.knows_eq_false (unknown candidate member)
      exact .inl unresolved.symm
  | some info =>
      cases known : table.knows info.name with
      | false => exact .inr ⟨info, rfl, known⟩
      | true =>
          -- The candidates before this class are unknown to the larger table, and so to the other.
          have first : (candidates name scope).find? larger.knows = some info.name := by
            rw [← map_name_resolve, found, Option.map_some]
          obtain ⟨-, before, behind, split, unknown⟩ := List.find?_eq_some_iff_append.mp first
          have first' : (candidates name scope).find? table.knows = some info.name := by
            refine List.find?_eq_some_iff_append.mpr ⟨known, before, behind, split, ?_⟩
            intro candidate member
            simpa using extension.knows_eq_false (by simpa using unknown candidate member)
          have own : table.superclass? info.name = some info.superclass := by
            rw [← extension.superclass?_eq known, superclass?_of_resolve found]
          exact .inl (resolve_eq_some first' own).symm

end Extends

section Adding

/-- Classes that a table does not have extend it. -/
theorem extends_withClasses (unknown : ∀ name ∈ more.map Prod.fst, table.knows name = false) :
    table.Extends (table.withClasses more) := by
  intro name superclass own
  have old : name ∉ more.map Prod.fst := by
    intro added
    have missing := unknown name added
    rw [knows_of_superclass? own] at missing
    cases missing
  rw [withClasses, superclass?, Dict.get?_merge_of_not_mem old]
  exact own

/-- A class that was not known before is one of those that were added. -/
theorem mem_of_superclass?_withClasses {superclass : Option String}
    (own : (table.withClasses more).superclass? name = some superclass)
    (new : table.knows name = false) : (name, superclass) ∈ more := by
  rcases Dict.mem_or_eq_of_get?_merge own with added | old
  · exact added
  · have known : table.knows name = true := knows_of_superclass? old
    rw [known] at new
    cases new

end Adding

/-- Classes with names that a table does not have only add to what it answers. Subtypes stay
subtypes and unchecked classes unchecked. A class whose chain of superclasses stays in the table is
compared and judged as before, and a name stands for what it stood for or for one of the classes
that were added. -/
theorem unknown_classes_only_add (table : ClassTable) (more : Dict String (Option String))
    (unknown : ∀ name ∈ more.map Prod.fst, table.knows name = false) :
    (∀ sub sup, table.isSubtype sub sup = true →
      (table.withClasses more).isSubtype sub sup = true) ∧
    (∀ name, table.isUnchecked name = true → (table.withClasses more).isUnchecked name = true) ∧
    (∀ sub, table.StaysInside sub →
      (∀ sup, (table.withClasses more).isSubtype sub sup = table.isSubtype sub sup) ∧
        (table.withClasses more).isUnchecked sub = table.isUnchecked sub) ∧
    ∀ name scope, (table.withClasses more).resolve name scope = table.resolve name scope ∨
      ∃ info, (table.withClasses more).resolve name scope = some info ∧
        (info.name, info.superclass) ∈ more := by
  have extension := extends_withClasses unknown
  refine ⟨fun _ _ => extension.isSubtype, fun _ => extension.isUnchecked, ?_, ?_⟩
  · intro sub inside
    exact ⟨extension.isSubtype_eq inside, extension.isUnchecked_eq inside⟩
  · intro name scope
    rcases extension.resolve_eq_or_new name scope with same | ⟨info, found, new⟩
    · exact .inl same
    · exact .inr ⟨info, found, mem_of_superclass?_withClasses (superclass?_of_resolve found) new⟩

/-- A table with a circle, and with a class whose superclass it does not have. -/
def gappedTable : ClassTable where
  classes :=
    [("a.Low", some "b.Gap"), ("a.East", some "a.West"), ("a.West", some "a.East"),
     ("a.Fault", some "java.lang.Error"), ("java.lang.Error", none)]

/-- The missing superclass, and a class that comes before another one of its simple name. -/
def fillingClasses : Dict String (Option String) :=
  [("b.Gap", some "java.lang.Error"), ("p.Error", some "a.East")]

theorem gappedTable_staysInside_east : gappedTable.StaysInside "a.East" := by
  have closed : ∀ name ∈ ["a.East", "a.West"], ∀ parent,
      gappedTable.parent? name = some parent → parent ∈ ["a.East", "a.West"] := by
    have next : gappedTable.parent? "a.East" = some "a.West" ∧
        gappedTable.parent? "a.West" = some "a.East" := by decide +kernel
    simp [next]
  intro steps above reached
  have member := Climb.mem_of_ancestor? closed (by simp) reached
  have known : ["a.East", "a.West"].all gappedTable.knows = true := by decide +kernel
  exact List.all_eq_true.mp known above member

/-- Where the table had a gap, a class becomes a subtype of what lies beyond; the circle is not
touched, and a simple name may come to stand for one of the new classes. -/
theorem gappedTable_filled :
    (∀ name ∈ fillingClasses.map Prod.fst, gappedTable.knows name = false) ∧
      gappedTable.isSubtype "a.Low" "java.lang.Error" = false ∧
      (gappedTable.withClasses fillingClasses).isSubtype "a.Low" "java.lang.Error" = true ∧
      (gappedTable.withClasses fillingClasses).isSubtype "a.Low" "b.Gap" = true ∧
      (gappedTable.withClasses fillingClasses).isUnchecked "a.Fault" = true ∧
      gappedTable.StaysInside "a.East" ∧
      (gappedTable.withClasses fillingClasses).isSubtype "a.East" "java.lang.Error" = false ∧
      gappedTable.resolve "Error" (some { package := some "p" }) =
        some ⟨"java.lang.Error", none⟩ ∧
      ∃ info, (gappedTable.withClasses fillingClasses).resolve "Error"
        (some { package := some "p" }) = some info ∧
        (info.name, info.superclass) ∈ fillingClasses := by
  have unknown : ∀ name ∈ fillingClasses.map Prod.fst, gappedTable.knows name = false := by
    decide +kernel
  obtain ⟨subtypes, unchecked, inside, names⟩ :=
    unknown_classes_only_add gappedTable fillingClasses unknown
  have east := gappedTable_staysInside_east
  have circle : gappedTable.isSubtype "a.East" "java.lang.Error" = false := by decide +kernel
  refine ⟨unknown, by decide +kernel, by decide +kernel,
    subtypes "a.Low" "b.Gap" (by decide +kernel), unchecked "a.Fault" (by decide +kernel), east,
    ((inside "a.East" east).1 "java.lang.Error").trans circle, by decide +kernel, ?_⟩
  rcases names "Error" (some { package := some "p" }) with same | new
  · exact absurd same (by decide +kernel)
  · exact new

end JavadocAudit.ClassTable

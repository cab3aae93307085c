import JavadocAudit.Proofs.ClassTable.Lookup
import JavadocAudit.Resolver
import Mathlib.Data.Finset.Card

/-!
# Subtypes are reached through superclasses

A chain of superclasses is followed for as many steps as the table has classes. This is enough in
every table: a longer way passes a class twice, since all classes on it but the last have a
superclass and are therefore in the table, and what lies between the two can be left out. So a class
is a subtype of another one exactly if some number of steps leads to it, and tables that give the
same superclasses answer all questions alike, in whatever order they list their classes.
-/

namespace JavadocAudit.ClassTable

variable {table other : ClassTable} {sub sup : String} {steps : Nat}

/-- The class that is reached from another one by a number of steps to the superclass. -/
def ancestor? (table : ClassTable) : Nat → String → Option String
  | 0, name => some name
  | steps + 1, name => (table.parent? name).bind (table.ancestor? steps)

theorem ancestor?_add (table : ClassTable) (first second : Nat) (name : String) :
    table.ancestor? (first + second) name =
      (table.ancestor? first name).bind (table.ancestor? second) := by
  induction first generalizing name with
  | zero => simp [ancestor?]
  | succ first ih =>
      rw [Nat.succ_add, ancestor?, ancestor?]
      cases table.parent? name with
      | none => rfl
      | some parent => exact ih parent

theorem mem_chain_iff {count : Nat} :
    sup ∈ table.chain count sub ↔ ∃ steps < count, table.ancestor? steps sub = some sup := by
  induction count generalizing sub with
  | zero => simp [chain]
  | succ count ih =>
      rw [chain, List.mem_cons]
      constructor
      · rintro (rfl | above)
        · exact ⟨0, Nat.succ_pos count, rfl⟩
        · cases parent : table.parent? sub with
          | none => simp [parent] at above
          | some direct =>
              simp only [parent] at above
              obtain ⟨steps, bound, reached⟩ := ih.mp above
              exact ⟨steps + 1, Nat.succ_lt_succ bound, by simpa [ancestor?, parent] using reached⟩
      · rintro ⟨steps, bound, reached⟩
        cases steps with
        | zero => exact .inl (Option.some.inj reached).symm
        | succ steps =>
            obtain ⟨direct, parent, reached⟩ := Option.bind_eq_some_iff.mp reached
            simp only [parent]
            exact .inr (ih.mpr ⟨steps, Nat.lt_of_succ_lt_succ bound, reached⟩)

/-- A class from which a step can be taken is in the table. -/
theorem knows_of_parent? {name parent : String} (h : table.parent? name = some parent) :
    table.knows name = true := by
  unfold parent? at h
  exact knows_of_superclass? (Option.join_eq_some_iff.mp h)

/-- The classes that are left behind on a way are in the table. -/
theorem exists_knows_of_lt (h : table.ancestor? steps sub = some sup) {passed : Nat}
    (bound : passed < steps) :
    ∃ name, table.ancestor? passed sub = some name ∧ table.knows name = true := by
  obtain ⟨rest, rfl⟩ : ∃ rest, steps = passed + (rest + 1) := ⟨steps - passed - 1, by omega⟩
  rw [ancestor?_add] at h
  obtain ⟨name, reached, h⟩ := Option.bind_eq_some_iff.mp h
  obtain ⟨parent, step, -⟩ := Option.bind_eq_some_iff.mp h
  exact ⟨name, reached, knows_of_parent? step⟩

/-- A way that is longer than the table passes a class twice. -/
theorem exists_passed_twice (h : table.ancestor? steps sub = some sup)
    (long : table.classes.length < steps) :
    ∃ first second, first < second ∧ second < steps ∧
      table.ancestor? first sub = table.ancestor? second sub := by
  let keys := ((table.classes.map Prod.fst).map some).toFinset
  have few : keys.card < (Finset.range steps).card := by
    calc keys.card ≤ ((table.classes.map Prod.fst).map some).length := List.toFinset_card_le _
      _ = table.classes.length := by simp
      _ < (Finset.range steps).card := by simpa using long
  have inTable : ∀ passed ∈ Finset.range steps, table.ancestor? passed sub ∈ keys := by
    intro passed bound
    obtain ⟨name, reached, known⟩ := exists_knows_of_lt h (Finset.mem_range.mp bound)
    rw [reached, List.mem_toFinset]
    exact List.mem_map_of_mem (knows_iff.mp known)
  obtain ⟨i, hi, j, hj, different, same⟩ :=
    Finset.exists_ne_map_eq_of_card_lt_of_maps_to few inTable
  rw [Finset.mem_range] at hi hj
  rcases Nat.lt_or_gt_of_ne different with lt | gt
  · exact ⟨i, j, lt, hj, same⟩
  · exact ⟨j, i, gt, hi, same.symm⟩

/-- Whatever is reached at all is reached in as many steps as the table has classes. -/
theorem exists_ancestor?_le_length (h : table.ancestor? steps sub = some sup) :
    ∃ short ≤ table.classes.length, table.ancestor? short sub = some sup := by
  induction steps using Nat.strongRecOn with
  | ind steps ih =>
      by_cases long : table.classes.length < steps
      · obtain ⟨first, second, before, bound, same⟩ := exists_passed_twice h long
        have shorter : table.ancestor? (first + (steps - second)) sub = some sup := by
          rw [ancestor?_add, same, ← ancestor?_add, Nat.add_sub_cancel' (Nat.le_of_lt bound), h]
        exact ih _ (by omega) shorter
      · exact ⟨steps, Nat.le_of_not_lt long, h⟩

/-- One class is a subtype of another exactly if some number of steps leads to it. -/
theorem isSubtype_iff :
    table.isSubtype sub sup = true ↔ ∃ steps, table.ancestor? steps sub = some sup := by
  rw [isSubtype, List.contains_iff_mem, mem_chain_iff]
  constructor
  · rintro ⟨steps, -, reached⟩
    exact ⟨steps, reached⟩
  · rintro ⟨steps, reached⟩
    obtain ⟨short, bound, reached⟩ := exists_ancestor?_le_length reached
    exact ⟨short, Nat.lt_succ_of_le bound, reached⟩

/-- Beyond a class without a known superclass nothing is reached. -/
theorem isSubtype_of_parent?_eq_none (h : table.parent? sub = none) :
    table.isSubtype sub sup = true ↔ sup = sub := by
  rw [isSubtype_iff]
  constructor
  · rintro ⟨steps, reached⟩
    cases steps with
    | zero => exact (Option.some.inj reached).symm
    | succ steps => simp [ancestor?, h] at reached
  · rintro rfl
    exact ⟨0, rfl⟩

theorem isSubtype_of_parent?_eq_some {parent : String} (h : table.parent? sub = some parent) :
    table.isSubtype sub sup = true ↔ sup = sub ∨ table.isSubtype parent sup = true := by
  simp only [isSubtype_iff]
  constructor
  · rintro ⟨steps, reached⟩
    cases steps with
    | zero => exact .inl (Option.some.inj reached).symm
    | succ steps => exact .inr ⟨steps, by simpa [ancestor?, h] using reached⟩
  · rintro (rfl | ⟨steps, reached⟩)
    · exact ⟨0, rfl⟩
    · exact ⟨steps + 1, by simpa [ancestor?, h] using reached⟩

/-- A superclass that is not in the table leads to no class of the table. -/
theorem isSubtype_eq_false_of_deadEnd {written : String} (unknown : table.knows written = false)
    (known : table.knows sup = true) : table.isSubtype written sup = false := by
  have top : table.parent? written = none := by
    have missing : table.superclass? written = none := by simpa [knows] using unknown
    simp [parent?, missing]
  rw [← Bool.not_eq_true, isSubtype_of_parent?_eq_none top]
  rintro rfl
  rw [known] at unknown
  cases unknown

/-- Tables with the same superclasses look up, compare and judge all classes alike. -/
theorem resolver_congr (same : ∀ name, table.superclass? name = other.superclass? name) :
    table.resolver = other.resolver := by
  have superclasses : table.superclass? = other.superclass? := funext same
  have parents : table.parent? = other.parent? := by
    funext name
    rw [parent?, parent?, same]
  have ancestors (steps : Nat) : table.ancestor? steps = other.ancestor? steps := by
    induction steps with
    | zero => rfl
    | succ steps ih =>
        funext name
        rw [ancestor?, ancestor?, parents, ih]
  have resolves : table.resolve = other.resolve := by
    funext name scope
    rw [resolve, resolve, superclasses]
  have subtypes : table.isSubtype = other.isSubtype := by
    funext sub sup
    rw [Bool.eq_iff_iff, isSubtype_iff, isSubtype_iff]
    simp only [ancestors]
  have unchecked : table.isUnchecked = other.isUnchecked := by
    funext name
    rw [isUnchecked, isUnchecked, subtypes]
  rw [resolver, resolver, resolves, subtypes, unchecked]

end JavadocAudit.ClassTable

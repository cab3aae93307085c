import JavadocAudit.ClassTable.Basic

/-!
# What a class table knows

Classes that are added to a table are known beside the others, and answer with what was added. A
name stands for the first of its candidates that is known, so which class it stands for hangs on
nothing but the names in the table. The name itself is always among the candidates, therefore a name
that stands for no class is not in the table.
-/

namespace JavadocAudit

namespace Dict

variable {κ α : Type} [BEq κ] {dict other entries : Dict κ α} {key : κ}

theorem merge_cons (entry : κ × α) (rest : Dict κ α) :
    merge dict (entry :: rest) = merge (insert dict entry.1 entry.2) rest := rfl

variable [LawfulBEq κ]

theorem isSome_get?_iff : (get? dict key).isSome = true ↔ key ∈ dict.map Prod.fst := by
  induction dict with
  | nil => simp
  | cons entry rest ih =>
      rw [get?_cons, List.map_cons, List.mem_cons]
      by_cases here : key = entry.1
      · simp [here]
      · simp [here, ih]

theorem get?_eq_none_iff : get? dict key = none ↔ key ∉ dict.map Prod.fst := by
  rw [← isSome_get?_iff, Bool.not_eq_true, Option.isSome_eq_false_iff, Option.isNone_iff_eq_none]

/-- With one entry per key, the value of a key is the one that stands beside it. -/
theorem get?_eq_some_iff (distinct : (dict.map Prod.fst).Nodup) {value : α} :
    get? dict key = some value ↔ (key, value) ∈ dict := by
  induction dict with
  | nil => simp
  | cons entry rest ih =>
      obtain ⟨new, distinct⟩ := List.nodup_cons.mp distinct
      rw [get?_cons, List.mem_cons, Prod.mk.injEq]
      by_cases here : key = entry.1
      · subst here
        have notLater : (entry.1, value) ∉ rest := fun later =>
          new (List.mem_map.mpr ⟨_, later, rfl⟩)
        simp [notLater, eq_comm]
      · simp [here, ih distinct]

/-- With one entry per key, the order of the entries does not matter. -/
theorem get?_eq_of_perm (distinct : (dict.map Prod.fst).Nodup) (same : dict.Perm other)
    (key : κ) : get? dict key = get? other key := by
  have distinct' : (other.map Prod.fst).Nodup := (same.map Prod.fst).nodup distinct
  ext value
  rw [get?_eq_some_iff distinct, get?_eq_some_iff distinct', same.mem_iff]

theorem get?_filter_ne (dict : Dict κ α) (removed key : κ) :
    get? (dict.filter (·.1 != removed)) key =
      if key == removed then none else get? dict key := by
  induction dict with
  | nil => simp
  | cons entry rest ih =>
      obtain ⟨k, value⟩ := entry
      rw [get?_cons, List.filter_cons]
      by_cases out : k = removed
      · subst out
        simp only [bne_self_eq_false, Bool.false_eq_true, ↓reduceIte, ih]
        split <;> rfl
      · rw [if_pos (by simpa using out), get?_cons, ih]
        by_cases here : key = k
        · simp [here, out]
        · simp [here]

theorem mem_keys_insert {added : κ} {value : α} :
    key ∈ (insert dict added value).map Prod.fst ↔ key ∈ dict.map Prod.fst ∨ key = added := by
  rw [← isSome_get?_iff, ← isSome_get?_iff, get?_insert]
  by_cases here : key = added
  · simp [here]
  · simp [here]

/-- What holds of all entries and of a new one still holds after the new one is given. -/
theorem forall_mem_insert {P : κ × α → Prop} {value : α} (old : ∀ entry ∈ dict, P entry)
    (new : P (key, value)) : ∀ entry ∈ insert dict key value, P entry := by
  induction dict with
  | nil => simpa [insert] using new
  | cons first rest ih =>
      obtain ⟨here, later⟩ := List.forall_mem_cons.mp old
      rw [insert]
      split
      · next same =>
          obtain rfl := beq_iff_eq.mp same
          exact List.forall_mem_cons.mpr ⟨new, later⟩
      · exact List.forall_mem_cons.mpr ⟨here, ih later⟩

/-- A key that is given a value does not come up twice. -/
theorem nodup_keys_insert (h : (dict.map Prod.fst).Nodup) (added : κ) (value : α) :
    ((insert dict added value).map Prod.fst).Nodup := by
  induction dict with
  | nil => simp [insert]
  | cons entry rest ih =>
      obtain ⟨new, distinct⟩ := List.nodup_cons.mp h
      rw [insert]
      by_cases here : added = entry.1
      · simpa [here] using h
      · rw [if_neg (by simpa using here), List.map_cons, List.nodup_cons, mem_keys_insert]
        refine ⟨?_, ih distinct⟩
        rintro (old | equal)
        · exact new old
        · exact here equal.symm

theorem mem_keys_merge :
    key ∈ (merge dict other).map Prod.fst ↔
      key ∈ dict.map Prod.fst ∨ key ∈ other.map Prod.fst := by
  induction other generalizing dict with
  | nil => simp [merge]
  | cons entry rest ih =>
      rw [merge_cons, ih, mem_keys_insert, List.map_cons, List.mem_cons, or_assoc]

theorem nodup_keys_merge (h : (dict.map Prod.fst).Nodup) (other : Dict κ α) :
    ((merge dict other).map Prod.fst).Nodup := by
  induction other generalizing dict with
  | nil => exact h
  | cons entry rest ih => exact ih (nodup_keys_insert h entry.1 entry.2)

/-- The second dictionary answers for its own keys, the first for all others. -/
theorem get?_merge (distinct : (other.map Prod.fst).Nodup) (dict : Dict κ α) (key : κ) :
    get? (merge dict other) key = (get? other key).or (get? dict key) := by
  induction other generalizing dict with
  | nil => simp [merge]
  | cons entry rest ih =>
      obtain ⟨new, distinct⟩ := List.nodup_cons.mp distinct
      rw [merge_cons, ih distinct, get?_insert, get?_cons]
      by_cases here : key = entry.1
      · -- No later entry has this key, so none takes its value back.
        rw [here, get?_eq_none_iff.mpr new]
        simp
      · simp [here]

/-- A key that the second dictionary does not have keeps its value. -/
theorem get?_merge_of_not_mem (absent : key ∉ other.map Prod.fst) (dict : Dict κ α) :
    get? (merge dict other) key = get? dict key := by
  induction other generalizing dict with
  | nil => rfl
  | cons entry rest ih =>
      obtain ⟨here, later⟩ : key ≠ entry.1 ∧ key ∉ rest.map Prod.fst := by
        simpa using absent
      rw [merge_cons, ih later, get?_insert, if_neg (by simpa using here)]

/-- A value comes from the second dictionary, or it is what the first one has. -/
theorem mem_or_eq_of_get?_merge {value : α} (h : get? (merge dict other) key = some value) :
    (key, value) ∈ other ∨ get? dict key = some value := by
  induction other generalizing dict with
  | nil => exact .inr h
  | cons entry rest ih =>
      rw [merge_cons] at h
      rcases ih h with later | before
      · exact .inl (List.mem_cons_of_mem _ later)
      · rw [get?_insert] at before
        split at before
        · next here =>
            obtain rfl := Option.some.inj before
            obtain rfl := beq_iff_eq.mp here
            exact .inl List.mem_cons_self
        · exact .inr before

theorem mem_keys_ofList : key ∈ (ofList entries).map Prod.fst ↔ key ∈ entries.map Prod.fst := by
  simp [ofList, mem_keys_merge]

theorem get?_merge_ofList (distinct : (entries.map Prod.fst).Nodup) (dict : Dict κ α) (key : κ) :
    get? (merge dict (ofList entries)) key = (get? entries key).or (get? dict key) := by
  have own : get? (ofList entries) key = get? entries key := by
    simp [ofList, get?_merge distinct]
  have unique : ((ofList entries).map Prod.fst).Nodup := nodup_keys_merge (by simp) entries
  rw [get?_merge unique, own]

end Dict

namespace ClassTable

variable {table base : ClassTable} {name : String} {scope : Option NameScope} {info : ClassInfo}

theorem knows_iff : table.knows name = true ↔ name ∈ table.classes.map Prod.fst :=
  Dict.isSome_get?_iff

theorem knows_withClasses {entries : List (String × Option String)} :
    (base.withClasses (Dict.ofList entries)).knows name = true ↔
      base.knows name = true ∨ name ∈ entries.map Prod.fst := by
  rw [knows_iff, knows_iff, withClasses, Dict.mem_keys_merge, Dict.mem_keys_ofList]

theorem knows_of_superclass? {superclass : Option String}
    (h : table.superclass? name = some superclass) : table.knows name = true := by
  simp [knows, h]

section Resolve

/-- A name stands for the first of its candidates that is known. -/
theorem map_name_resolve (table : ClassTable) (name : String) (scope : Option NameScope) :
    (table.resolve name scope).map ClassInfo.name = (candidates name scope).find? table.knows := by
  unfold resolve
  induction candidates name scope with
  | nil => rfl
  | cons candidate rest ih =>
      rw [List.findSome?_cons, List.find?_cons, knows]
      cases table.superclass? candidate with
      | none => exact ih
      | some superclass => rfl

/-- The superclass of a class that a name stands for is that of the table. -/
theorem superclass?_of_resolve (h : table.resolve name scope = some info) :
    table.superclass? info.name = some info.superclass := by
  obtain ⟨candidate, -, found⟩ := List.exists_of_findSome?_eq_some h
  obtain ⟨superclass, own, rfl⟩ := Option.map_eq_some_iff.mp found
  exact own

theorem resolve_eq_some (first : (candidates name scope).find? table.knows = some info.name)
    (own : table.superclass? info.name = some info.superclass) :
    table.resolve name scope = some info := by
  rw [← map_name_resolve] at first
  obtain ⟨found, resolved, same⟩ := Option.map_eq_some_iff.mp first
  have superclass := superclass?_of_resolve resolved
  rw [same, own] at superclass
  rw [resolved, Option.some.injEq, ClassInfo.mk.injEq]
  exact ⟨same, (Option.some.inj superclass).symm⟩

theorem resolve_eq_none_iff :
    table.resolve name scope = none ↔
      ∀ candidate ∈ candidates name scope, table.knows candidate = false := by
  rw [← Option.map_eq_none_iff (f := ClassInfo.name), map_name_resolve, List.find?_eq_none]
  simp

/-- What a name stands for hangs on nothing but the first of its candidates that is known. -/
theorem resolve_eq_of_find?_eq {name' : String} {scope' : Option NameScope}
    (same : (candidates name scope).find? table.knows =
      (candidates name' scope').find? table.knows) :
    table.resolve name scope = table.resolve name' scope' := by
  rw [← map_name_resolve table name'] at same
  cases found : table.resolve name' scope' with
  | none =>
      rw [found, Option.map_none, ← map_name_resolve, Option.map_eq_none_iff] at same
      exact same
  | some info =>
      rw [found, Option.map_some] at same
      exact resolve_eq_some same (superclass?_of_resolve found)

theorem mem_candidates (name : String) (scope : Option NameScope) :
    name ∈ candidates name scope := by
  cases scope with
  | none => simp [candidates]
  | some scope => simp [candidates]

/-- A name that stands for no class is not the name of one. -/
theorem knows_eq_false_of_resolve (h : table.resolve name scope = none) :
    table.knows name = false :=
  resolve_eq_none_iff.mp h name (mem_candidates name scope)

/-- Of two tables with the same names, both find the same class behind a name. -/
theorem map_name_resolve_congr {other : ClassTable}
    (same : ∀ name, table.knows name = true ↔ other.knows name = true) (name : String)
    (scope : Option NameScope) :
    (table.resolve name scope).map ClassInfo.name =
      (other.resolve name scope).map ClassInfo.name := by
  have knows : table.knows = other.knows := by
    funext name
    exact Bool.eq_iff_iff.mpr (same name)
  rw [map_name_resolve, map_name_resolve, knows]

end Resolve

end ClassTable

end JavadocAudit

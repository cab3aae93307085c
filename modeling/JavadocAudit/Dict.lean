/-!
# Dictionaries in the order of insertion

A dictionary is a list of entries with one entry per key. Giving a key a new value keeps its place;
a new key goes to the end.
-/

namespace JavadocAudit

/-- Values by key, in the order in which the keys were first given. -/
abbrev Dict (κ α : Type) := List (κ × α)

namespace Dict

variable {κ α : Type} [BEq κ]

def get? (dict : Dict κ α) (key : κ) : Option α := dict.lookup key

def insert : Dict κ α → κ → α → Dict κ α
  | [], key, value => [(key, value)]
  | (k, v) :: rest, key, value =>
    if key == k then (k, value) :: rest else (k, v) :: insert rest key value

/-- All entries of the second dictionary given to the first. -/
def merge (dict other : Dict κ α) : Dict κ α :=
  other.foldl (fun dict entry => dict.insert entry.1 entry.2) dict

/-- The dictionary of a list of entries; the last value of a key counts. -/
def ofList (entries : List (κ × α)) : Dict κ α := merge [] entries

@[simp] theorem get?_nil (key : κ) : get? ([] : Dict κ α) key = none := rfl

theorem get?_cons (k : κ) (v : α) (rest : Dict κ α) (key : κ) :
    get? ((k, v) :: rest) key = if key == k then some v else get? rest key := by
  simp only [get?, List.lookup_cons]
  cases key == k <;> rfl

/-- After a key is given a value, that key has it and all other keys are as before. -/
theorem get?_insert [LawfulBEq κ] (dict : Dict κ α) (key other : κ) (value : α) :
    get? (insert dict key value) other = if other == key then some value else get? dict other := by
  induction dict with
  | nil => simp [insert, get?_cons]
  | cons entry rest ih =>
    obtain ⟨k, v⟩ := entry
    rw [insert]
    by_cases hk : key = k
    · subst hk
      simp only [BEq.rfl, ↓reduceIte, get?_cons]
      split <;> rfl
    · simp only [beq_iff_eq, hk, ↓reduceIte, get?_cons, ih]
      by_cases ho : other = k
      · subst ho
        simp [Ne.symm hk]
      · simp [ho]

end Dict

end JavadocAudit

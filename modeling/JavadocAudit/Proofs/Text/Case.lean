import JavadocAudit.Text.Case
import Mathlib.Data.List.Basic

/-!
# Letters whose case is ignored

Characters are compared through a table of runs of capitals. Reading the table backwards gives all
characters that count as a given one, and for a small ASCII letter there are few: the letter, its
capital, and the letters outside of ASCII that have one of the two as their other case.
-/

namespace JavadocAudit.Text

/-- The capitals that the table has for a small letter. -/
def capitalsOf (small : Nat) : List Nat :=
  caseRuns.filterMap fun run =>
    let capital := ((small : Int) - run.shift).toNat
    if run.covers capital && lowerCode capital == small then some capital else none

theorem caseVariants_eq_flatMap (n : Nat) :
    caseVariants n = (twinsOf (lowerCode n)).flatMap fun small => small :: capitalsOf small := rfl

/-- A character is its own lower case or one of the capitals of its lower case. -/
theorem mem_of_lowerCode_eq {n small : Nat} (lower : lowerCode n = small) (nonzero : small ≠ 0) :
    n ∈ small :: capitalsOf small := by
  have again := lower
  rw [lowerCode] at lower
  cases found : caseRuns.find? (·.covers n) with
  | none =>
      rw [found] at lower
      exact lower ▸ List.mem_cons_self
  | some run =>
      rw [found] at lower
      have covers : run.covers n = true :=
        List.find?_some (p := fun run : CaseRun => run.covers n) found
      have shifted : ((n : Int) + run.shift).toNat = small := lower
      have back : ((small : Int) - run.shift).toNat = n := by omega
      apply List.mem_cons_of_mem
      refine List.mem_filterMap.mpr ⟨run, List.mem_of_find?_eq_some found, ?_⟩
      simp [back, covers, again]

theorem self_mem_twinsOf (n : Nat) : n ∈ twinsOf n := by
  unfold twinsOf
  cases found : twinLetters.find? (·.contains n) with
  | none => exact List.mem_singleton_self n
  | some twins =>
      have member : twins.contains n = true :=
        List.find?_some (p := fun twins : List Nat => twins.contains n) found
      simpa using member

/-- The comparison of characters finds no others than those of the table read backwards. -/
theorem mem_caseVariants_of_sameLetter {a b : Char} (same : sameLetter a b = true)
    (nonzero : 0 ∉ twinsOf (lowerCode b.toNat)) : a.toNat ∈ caseVariants b.toNat := by
  have twin : lowerCode a.toNat ∈ twinsOf (lowerCode b.toNat) := by
    obtain equal | twin := Bool.or_eq_true_iff.mp same
    · rw [beq_iff_eq.mp equal]
      exact self_mem_twinsOf _
    · simpa using twin
  rw [caseVariants_eq_flatMap, List.mem_flatMap]
  refine ⟨_, twin, mem_of_lowerCode_eq rfl ?_⟩
  intro zero
  exact nonzero (zero ▸ twin)

def smallLetters : List Char := "abcdefghijklmnopqrstuvwxyz".toList

/-- The ways to write a small ASCII letter when case is ignored. The capital I with a dot and the
small one without count as an i, the long s as an s and the sign of the unit kelvin as a k. -/
def writingsOf (letter : Char) : List Char :=
  letter :: letter.toUpper ::
    if letter = 'i' then ['İ', 'ı']
    else if letter = 's' then ['ſ']
    else if letter = 'k' then ['\u212a']
    else []

theorem smallLetters_table :
    (smallLetters.all fun letter =>
      !(twinsOf (lowerCode letter.toNat)).contains 0 &&
        (caseVariants letter.toNat).all (fun n => (writingsOf letter).contains (Char.ofNat n)) &&
        (writingsOf letter).all (sameLetter · letter)) = true := by
  decide +kernel

/-- The comparison that ignores case knows exactly these ways to write a small letter. -/
theorem sameLetter_iff_mem_writingsOf {c letter : Char} (small : letter ∈ smallLetters) :
    sameLetter c letter = true ↔ c ∈ writingsOf letter := by
  have table := List.all_eq_true.mp smallLetters_table letter small
  simp only [Bool.and_eq_true, Bool.not_eq_true', List.all_eq_true] at table
  obtain ⟨⟨nonzero, known⟩, sound⟩ := table
  constructor
  · intro same
    have variant := mem_caseVariants_of_sameLetter same (by simpa using nonzero)
    simpa [Char.ofNat_toNat] using known c.toNat variant
  · intro written
    exact sound c written

end JavadocAudit.Text

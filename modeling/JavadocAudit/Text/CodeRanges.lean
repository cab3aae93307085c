/-!
# Sets of code points given by ranges

A character class of a text standard is a long list of code points. Here such a class is a list of
closed ranges in increasing order, and membership is a search that stops at the first range that
starts above the code point.
-/

namespace JavadocAudit.Text

/-- A set of code points, as closed ranges in increasing order. -/
abbrev CodeRanges := List (Nat × Nat)

/-- Membership in a set of code points. -/
def CodeRanges.contains : CodeRanges → Nat → Bool
  | [], _ => false
  | (low, high) :: rest, n =>
    if n < low then false else if n ≤ high then true else contains rest n

@[simp] theorem CodeRanges.contains_nil (n : Nat) : CodeRanges.contains [] n = false := rfl

/-- A code point that is found lies in one of the ranges. -/
theorem CodeRanges.exists_of_contains {ranges : CodeRanges} {n : Nat}
    (h : ranges.contains n = true) : ∃ range ∈ ranges, range.1 ≤ n ∧ n ≤ range.2 := by
  induction ranges with
  | nil => simp at h
  | cons range rest ih =>
    obtain ⟨low, high⟩ := range
    simp only [contains] at h
    split at h
    · cases h
    · split at h
      · exact ⟨(low, high), by simp, by omega, by omega⟩
      · obtain ⟨found, hmem, hfound⟩ := ih h
        exact ⟨found, List.mem_cons_of_mem _ hmem, hfound⟩

end JavadocAudit.Text

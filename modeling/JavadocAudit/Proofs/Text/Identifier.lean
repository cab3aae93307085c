import JavadocAudit.Text.Blank
import JavadocAudit.Text.Identifier
import Mathlib.Data.List.Chain

/-!
# Characters of names

The ranges of a character class are in increasing order, so the search finds every code point that
lies in one of them. A character that may start an identifier may therefore continue one, and a word
of a source text is not empty. A name is made of such characters and of dots; blanks, slashes and
brackets never occur in it.
-/

namespace JavadocAudit.Text

namespace CodeRanges

/-- A code point in one of the ranges is found, if the ranges are in increasing order. -/
theorem contains_of_mem {ranges : CodeRanges} {range : Nat × Nat} {n : Nat}
    (ordered : ranges.Pairwise (·.1 ≤ ·.1)) (member : range ∈ ranges) (low : range.1 ≤ n)
    (high : n ≤ range.2) : ranges.contains n = true := by
  induction ranges with
  | nil => cases member
  | cons first rest ih =>
      obtain ⟨least, later⟩ := List.pairwise_cons.mp ordered
      rcases List.mem_cons.mp member with rfl | member
      · rw [contains, if_neg (by omega), if_pos high]
      · have := least range member
        rw [contains, if_neg (by omega)]
        split
        · rfl
        · exact ih later member

/-- Ranges are left out from the front as long as they lie in the first of wider ranges, then in the
second, and so on, until none is left. -/
def covers (wide narrow : CodeRanges) : Bool :=
  match wide with
  | [] => narrow.isEmpty
  | first :: rest =>
    covers rest (narrow.dropWhile fun range => first.1 ≤ range.1 && range.2 ≤ first.2)

theorem exists_of_covers {wide narrow : CodeRanges} (h : wide.covers narrow = true) :
    ∀ range ∈ narrow, ∃ wider ∈ wide, wider.1 ≤ range.1 ∧ range.2 ≤ wider.2 := by
  induction wide generalizing narrow with
  | nil =>
      intro range member
      rw [List.isEmpty_iff.mp h] at member
      cases member
  | cons first rest ih =>
      intro range member
      rw [← List.takeWhile_append_dropWhile (p := fun range : Nat × Nat =>
        first.1 ≤ range.1 && range.2 ≤ first.2) (l := narrow)] at member
      rcases List.mem_append.mp member with inside | later
      · have within := List.all_eq_true.mp List.all_takeWhile range inside
        exact ⟨first, List.mem_cons_self, by simpa using within⟩
      · obtain ⟨wider, found, within⟩ := ih h range later
        exact ⟨wider, List.mem_cons_of_mem _ found, within⟩

end CodeRanges

/-- A character that starts an identifier may continue one. -/
theorem isIdentifierPart_of_isIdentifierStart {c : Char} (h : isIdentifierStart c = true) :
    isIdentifierPart c = true := by
  rw [isIdentifierStart, Bool.or_eq_true] at h
  rcases h with dollar | start
  · rw [isIdentifierPart, dollar]
    rfl
  · have ordered : (identifierPartRanges.map Prod.fst).IsChain (· ≤ ·) := by decide +kernel
    have covered : CodeRanges.covers identifierPartRanges identifierStartRanges = true := by
      decide +kernel
    obtain ⟨range, member, low, high⟩ := CodeRanges.exists_of_contains start
    obtain ⟨wider, found, below, above⟩ := CodeRanges.exists_of_covers covered range member
    have part : identifierPartRanges.contains c.toNat = true :=
      CodeRanges.contains_of_mem (List.pairwise_map.mp (List.isChain_iff_pairwise.mp ordered)) found
        (below.trans low) (high.trans above)
    exact Bool.or_eq_true_iff.mpr (.inr part)

def isNameChar (c : Char) : Bool := isIdentifierPart c || c = '.'

/-- No blank is part of a name. -/
theorem isNameChar_eq_false_of_isBlank {c : Char} (h : isBlank c = true) :
    isNameChar c = false := by
  obtain ⟨range, member, low, high⟩ := CodeRanges.exists_of_contains h
  have apart : ∀ range ∈ blankRanges, ∀ n ∈ List.range' range.1 (range.2 + 1 - range.1),
      isNameChar (Char.ofNat n) = false := by decide +kernel
  have here := apart range member c.toNat (List.mem_range'_1.mpr ⟨low, by omega⟩)
  rwa [Char.ofNat_toNat] at here

/-- A name has no blanks at its ends. -/
theorem isBlank_eq_false_of_isNameChar {c : Char} (h : isNameChar c = true) :
    isBlank c = false := by
  cases blank : isBlank c with
  | false => rfl
  | true =>
      rw [isNameChar_eq_false_of_isBlank blank] at h
      cases h

end JavadocAudit.Text

import JavadocAudit.Proofs.Source.Token
import JavadocAudit.Proofs.Text.Identifier

/-!
# What stands between tokens

Between two tokens there are blanks and remarks. A remark starts with a slash. One that is closed
ends with a slash, and one that ends with its line is followed by a line break, which is a blank, or
by the end of the text, where no token follows. So what stands before a token, if anything does,
starts and ends with a blank or a slash, characters that are part of no name.
-/

namespace JavadocAudit.Source.Token

open Text

/-- A character at either end of what stands between two tokens. -/
def isEdge (c : Char) : Bool := isSpace c || c = '/'

theorem isNameChar_eq_false_of_isEdge {c : Char} (h : isEdge c = true) : isNameChar c = false := by
  rw [isEdge, Bool.or_eq_true] at h
  rcases h with space | slash
  · rw [isSpace, Bool.and_eq_true] at space
    exact isNameChar_eq_false_of_isBlank space.1
  · obtain rfl : c = '/' := by simpa using slash
    decide +kernel

section Skips

variable {cs : List Char} {length : Nat}

/-- A remark that is closed ends where its end stands first. -/
theorem exists_of_remarkLength? (h : remarkLength? cs = some length) :
    ∃ front back, cs = front ++ '*' :: '/' :: back ∧ length = front.length + 2 := by
  fun_induction remarkLength? cs generalizing length with
  | case1 rest =>
      obtain rfl := Option.some.inj h
      exact ⟨[], rest, rfl, rfl⟩
  | case2 c rest _ ih =>
      obtain ⟨inner, ends, rfl⟩ := Option.map_eq_some_iff.mp h
      obtain ⟨front, back, rfl, rfl⟩ := ih ends
      exact ⟨c :: front, back, rfl, rfl⟩
  | case3 => cases h

theorem Skips.head?_take (h : Skips cs length) :
    ∃ c, (cs.take length).head? = some c ∧ isEdge c = true := by
  cases h with
  | line rest => exact ⟨'/', by simp [Nat.add_comm 2], rfl⟩
  | block ends => exact ⟨'/', by simp [Nat.add_comm 2], rfl⟩
  | space rest space => exact ⟨_, rfl, by simp [isEdge, space]⟩

/-- What is skipped ends with a blank or a slash, or the line ends behind it. -/
theorem Skips.getLast?_take (h : Skips cs length) :
    (∃ c, (cs.take length).getLast? = some c ∧ isEdge c = true) ∨
      (cs.drop length).head?.all (· = '\n') = true := by
  cases h with
  | line rest =>
      right
      have behind : ('/' :: '/' :: rest).drop (2 + runLength (· ≠ '\n') rest) =
          rest.dropWhile (· ≠ '\n') := by
        rw [Nat.add_comm, List.drop_succ_cons, List.drop_succ_cons]
        nth_rewrite 2 [← List.takeWhile_append_dropWhile (p := (· ≠ '\n')) (l := rest)]
        exact List.drop_left
      have stop := List.head?_dropWhile_not (· ≠ '\n') rest
      rw [behind]
      cases found : (rest.dropWhile (· ≠ '\n')).head? with
      | none => rfl
      | some c =>
          rw [found] at stop
          simpa using stop
  | @block rest length ends =>
      left
      obtain ⟨front, back, rfl, rfl⟩ := exists_of_remarkLength? ends
      have taken : ('/' :: '*' :: (front ++ '*' :: '/' :: back)).take (2 + (front.length + 2)) =
          '/' :: '*' :: (front ++ ['*']) ++ ['/'] := by
        rw [Nat.add_comm, List.take_succ_cons, List.take_succ_cons, List.take_append,
          List.take_of_length_le (Nat.le_add_right _ 2)]
        simp
      exact ⟨'/', by rw [taken, List.getLast?_concat], rfl⟩
  | space rest space => exact .inl ⟨_, rfl, by simp [isEdge, space]⟩

end Skips

/-- No token starts with a line break. -/
theorem next?_newline (rest : List Char) : next? ('\n' :: rest) = none := by
  have start : isIdentifierStart '\n' = false := by decide +kernel
  have number : numberLength ('\n' :: rest) = 0 := by simp [numberLength]
  have symbol : symbolLength? ('\n' :: rest) = none := by
    have short : '\n' ∉ shortSymbols := by decide
    simp [symbolLength?, longSymbols, short]
  simp [next?, start, number, symbol]

/-- What stands before a token starts and ends with a blank or a slash, or is empty. -/
theorem edges_of_gap? {fuel : Nat} {point : Point} {cs rest : List Char} {gap : Gap}
    (h : gap? fuel point cs = some (gap, rest)) (goesOn : rest.head?.all (· = '\n') = false) :
    gap.text.head?.all isEdge = true ∧ gap.text.getLast?.all isEdge = true := by
  induction fuel generalizing point cs gap with
  | zero =>
      obtain ⟨rfl, rfl⟩ := Prod.mk.inj (Option.some.inj h)
      exact ⟨rfl, rfl⟩
  | succ fuel ih =>
      rcases gap?_succ_cases h with ⟨rfl, rfl⟩ | ⟨length, remarks, between, skips, inner, rfl, -⟩
      · exact ⟨rfl, rfl⟩
      · obtain ⟨-, later⟩ := ih inner
        obtain ⟨first, starts, edge⟩ := skips.head?_take
        refine ⟨by simp [List.head?_append, starts, edge], ?_⟩
        rw [List.getLast?_append]
        cases last : between.text.getLast? with
        | some c => simpa [last] using later
        | none =>
            -- Nothing else is skipped, so the token follows what was skipped here.
            obtain ⟨split, -⟩ := gap?_spec inner
            rw [List.getLast?_eq_none_iff.mp last, List.nil_append] at split
            rcases skips.getLast?_take with ⟨c, found, edge⟩ | ends
            · simp [found, edge]
            · rw [split, goesOn] at ends
              cases ends

/-- A token as the scan cuts it: a word is an identifier or a keyword, and what stands before the
token starts and ends with a blank or a slash. -/
structure WellCut (token : Token) : Prop where
  word : token.kind = .word →
    token.text.toList ≠ [] ∧ ∀ c ∈ token.text.toList, isIdentifierPart c = true
  leadStart : token.lead.toList.head?.all isEdge = true
  leadEnd : token.lead.toList.getLast?.all isEdge = true

theorem word_ne_nil {cs : List Char} {length : Nat} (h : next? cs = some (.word, length)) :
    cs.take length ≠ [] := by
  obtain ⟨run, start⟩ := take_of_next?_eq_word h
  cases cs with
  | nil => cases start
  | cons c rest =>
      rw [run, List.takeWhile_cons_of_pos (isIdentifierPart_of_isIdentifierStart start)]
      exact List.cons_ne_nil _ _

theorem wellCut_of_scanFrom {fuel : Nat} {point : Point} {cs : List Char}
    {tokens : List Token} (h : scanFrom fuel point cs = some tokens) :
    ∀ token ∈ tokens, token.WellCut := by
  induction fuel generalizing point cs tokens with
  | zero => cases h
  | succ fuel ih =>
      rcases scanFrom_succ_cases h with rfl |
        ⟨gap, rest, kind, length, later, skipped, next, scanned, rfl⟩
      · simp
      · have goesOn : rest.head?.all (· = '\n') = false := by
          cases rest with
          | nil => cases next
          | cons c rest =>
              refine decide_eq_false fun newline => ?_
              rw [newline, next?_newline] at next
              cases next
        obtain ⟨leadStart, leadEnd⟩ := edges_of_gap? skipped goesOn
        refine List.forall_mem_cons.mpr ⟨⟨?_, ?_, ?_⟩, ih scanned⟩
        · rintro rfl
          rw [String.toList_ofList]
          refine ⟨word_ne_nil next, fun c inWord => ?_⟩
          rw [(take_of_next?_eq_word next).1] at inWord
          exact List.all_eq_true.mp List.all_takeWhile c inWord
        · rwa [String.toList_ofList]
        · rwa [String.toList_ofList]

/-- Every token of a source text is well cut. -/
theorem wellCut_of_scan {text : List Char} {tokens : List Token} (h : scan text = some tokens) :
    ∀ token ∈ tokens, token.WellCut := by
  unfold scan at h
  split at h
  · exact wellCut_of_scanFrom h
  · exact wellCut_of_scanFrom h

end JavadocAudit.Source.Token

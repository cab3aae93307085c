import JavadocAudit.Text.Word
import Mathlib.Data.List.Basic

/-!
# Words are maximal runs

A text can be cut into words piece by piece, as long as no cut goes through a word. A longest run of
word characters is a piece of this kind: what stands before it does not end with a word character
and what stands behind it does not start with one. So the words of a text are its longest runs, and
no part of a longer run is a word.
-/

namespace JavadocAudit.Text

/-- A run of word characters in a text that cannot be made longer. -/
def IsRun (cs word : List Char) : Prop :=
  ∃ front back, cs = front ++ (word ++ back) ∧ word ≠ [] ∧ (∀ c ∈ word, isWord c = true) ∧
    front.getLast?.any isWord = false ∧ back.head?.any isWord = false

/-- No word of a text with a tail reaches from the text into the tail. -/
def CutsNoWord (cs tail : List Char) : Prop :=
  cs.getLast?.any isWord = false ∨ tail.head?.any isWord = false

section Words

variable {c : Char} {cs front tail word : List Char}

theorem words_cons_of_not_word (h : isWord c = false) (rest : List Char) :
    words (c :: rest) = words rest := by
  rw [words, if_neg (by simp [h])]

theorem words_cons_of_stop (h : isWord c = true) {rest : List Char}
    (stop : rest.head?.any isWord = false) : words (c :: rest) = [c] :: words rest := by
  rw [words, if_pos h, stop]

theorem words_cons_of_eq_cons (h : isWord c = true) {rest first : List Char}
    {others : List (List Char)} (more : rest.head?.any isWord = true)
    (later : words rest = first :: others) : words (c :: rest) = (c :: first) :: others := by
  rw [words, if_pos h, more, later]

/-- A text that starts with a word character has a word. -/
theorem exists_words_eq_cons (start : cs.head?.any isWord = true) :
    ∃ first others, words cs = first :: others := by
  cases cs with
  | nil => cases start
  | cons c rest =>
      have here : isWord c = true := start
      rw [words, if_pos here]
      split
      · exact ⟨_, _, rfl⟩
      · exact ⟨_, _, rfl⟩

/-- A text is cut into words piece by piece. -/
theorem words_append (cut : CutsNoWord cs tail) : words (cs ++ tail) = words cs ++ words tail := by
  induction cs with
  | nil => rfl
  | cons c rest ih =>
      cases isWordC : isWord c with
      | false =>
          rw [List.cons_append, words_cons_of_not_word isWordC, words_cons_of_not_word isWordC, ih]
          cases rest with
          | nil => exact .inl rfl
          | cons d more => exact cut
      | true =>
          cases rest with
          | nil =>
              have stop : tail.head?.any isWord = false := by
                obtain last | stop := cut
                · rw [List.getLast?_singleton, Option.any_some, isWordC] at last
                  cases last
                · exact stop
              rw [List.singleton_append, words_cons_of_stop isWordC stop,
                words_cons_of_stop isWordC rfl]
              rfl
          | cons d more =>
              have later : words (d :: (more ++ tail)) = words (d :: more) ++ words tail := ih cut
              rw [List.cons_append, List.cons_append]
              cases isWordD : isWord d with
              | false =>
                  have stop (more : List Char) : (d :: more).head?.any isWord = false := isWordD
                  rw [words_cons_of_stop isWordC (stop (more ++ tail)), later,
                    words_cons_of_stop isWordC (stop more), List.cons_append]
              | true =>
                  have goesOn (more : List Char) : (d :: more).head?.any isWord = true := isWordD
                  obtain ⟨first, others, known⟩ := exists_words_eq_cons (goesOn more)
                  rw [known, List.cons_append] at later
                  rw [words_cons_of_eq_cons isWordC (goesOn (more ++ tail)) later,
                    words_cons_of_eq_cons isWordC (goesOn more) known, List.cons_append]

theorem words_eq_nil (none : ∀ c ∈ cs, isWord c = false) : words cs = [] := by
  induction cs with
  | nil => rfl
  | cons c rest ih =>
      obtain ⟨here, later⟩ := List.forall_mem_cons.mp none
      rw [words_cons_of_not_word here, ih later]

/-- A run of word characters is one word. -/
theorem words_run (nonempty : word ≠ []) (run : ∀ c ∈ word, isWord c = true) :
    words word = [word] := by
  induction word with
  | nil => exact absurd rfl nonempty
  | cons c rest ih =>
      obtain ⟨here, later⟩ := List.forall_mem_cons.mp run
      cases rest with
      | nil => exact words_cons_of_stop here rfl
      | cons d more =>
          exact words_cons_of_eq_cons here (later d List.mem_cons_self) (ih (by simp) later)

theorem head?_dropWhile_isWord (cs : List Char) :
    (cs.dropWhile isWord).head?.any isWord = false := by
  have stop := List.head?_dropWhile_not isWord cs
  cases found : (cs.dropWhile isWord).head? with
  | none => rfl
  | some c =>
      rw [found] at stop
      exact stop

/-- The runs of a tail are runs of the whole text if no cut goes through a word. -/
theorem IsRun.append_left (run : IsRun tail word) (cut : CutsNoWord cs tail) :
    IsRun (cs ++ tail) word := by
  obtain ⟨front, back, rfl, nonempty, letters, before, behind⟩ := run
  refine ⟨cs ++ front, back, by rw [List.append_assoc], nonempty, letters, ?_, behind⟩
  cases front with
  | cons d more => rwa [List.getLast?_append_of_ne_nil _ (List.cons_ne_nil d more)]
  | nil =>
      rw [List.append_nil]
      obtain last | stop := cut
      · exact last
      · -- The run starts the tail, which therefore starts with a word character.
        obtain ⟨c, rest, rfl⟩ := List.exists_cons_of_ne_nil nonempty
        have start : isWord c = false := stop
        rw [letters c List.mem_cons_self] at start
        cases start

theorem isRun_of_mem_words (found : word ∈ words cs) : IsRun cs word := by
  induction length : cs.length using Nat.strongRecOn generalizing cs with
  | ind size ih =>
      cases cs with
      | nil => cases found
      | cons c rest =>
          cases start : isWord c with
          | false =>
              rw [words_cons_of_not_word start] at found
              have run := ih rest.length (by rw [← length, List.length_cons]; omega) found rfl
              have cut : CutsNoWord [c] rest := .inl start
              exact run.append_left cut
          | true =>
              -- The first run is a word of its own, and the rest is shorter.
              have split : c :: rest = (c :: rest.takeWhile isWord) ++ rest.dropWhile isWord := by
                rw [List.cons_append, List.takeWhile_append_dropWhile]
              have letters : ∀ d ∈ c :: rest.takeWhile isWord, isWord d = true :=
                List.forall_mem_cons.mpr ⟨start, List.all_eq_true.mp List.all_takeWhile⟩
              have stop : (rest.dropWhile isWord).head?.any isWord = false :=
                head?_dropWhile_isWord rest
              have cut : CutsNoWord (c :: rest.takeWhile isWord) (rest.dropWhile isWord) :=
                .inr stop
              rw [split, words_append cut, words_run (by simp) letters, List.singleton_append,
                List.mem_cons] at found
              rw [split]
              obtain rfl | later := found
              · exact ⟨[], _, rfl, by simp, letters, rfl, stop⟩
              · have shorter : (rest.dropWhile isWord).length < size := by
                  have := (List.dropWhile_suffix isWord (l := rest)).length_le
                  rw [List.length_cons] at length
                  omega
                exact (ih _ shorter later rfl).append_left cut

/-- The words of a text are its longest runs of word characters. -/
theorem mem_words_iff : word ∈ words cs ↔ IsRun cs word := by
  constructor
  · exact isRun_of_mem_words
  · rintro ⟨front, back, rfl, nonempty, letters, before, behind⟩
    rw [words_append (.inl before), words_append (.inr behind), words_run nonempty letters]
    simp

end Words

end JavadocAudit.Text

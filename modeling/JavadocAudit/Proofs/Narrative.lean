import JavadocAudit.Narrative
import JavadocAudit.Proofs.Text.Case
import JavadocAudit.Proofs.Text.Word
import Mathlib.Data.List.Forall2

/-!
# What running text mentions

A parameter is mentioned by a whole word in capitals and a result by a whole word that speaks of
returning something. A whole word is a longest run of word characters in a line, so neither a
letter of another script nor a small letter next to it can be left aside to find one. A name is
compared in lower case with a word that has ASCII letters only, so the letters whose small form
depends on their place in a word, like the sigma, are never found whichever form is taken.
-/

namespace JavadocAudit

namespace Narrative

open Text

variable {word written : List Char}

/-- A word of capitals, digits and underscores that does not start with a digit. -/
structure IsCapitalWord (word : List Char) : Prop where
  letters : ∀ c ∈ word, ('A' ≤ c ∧ c ≤ 'Z') ∨ ('0' ≤ c ∧ c ≤ '9') ∨ c = '_'
  start : ∀ c ∈ word.head?, ¬ ('0' ≤ c ∧ c ≤ '9')

theorem isCapitalName_iff : isCapitalName word = true ↔ IsCapitalWord word := by
  have letter (c : Char) :
      isCapital c = true ↔ ('A' ≤ c ∧ c ≤ 'Z') ∨ ('0' ≤ c ∧ c ≤ '9') ∨ c = '_' := by
    simp [isCapital, or_assoc]
  have first : (!word.head?.any fun c => '0' ≤ c && c ≤ '9') = true ↔
      ∀ c ∈ word.head?, ¬ ('0' ≤ c ∧ c ≤ '9') := by
    cases word.head? with
    | none => simp
    | some c =>
        rw [Option.any_some, Bool.not_eq_true', ← Bool.not_eq_true, Bool.and_eq_true,
          decide_eq_true_eq, decide_eq_true_eq]
        exact ⟨fun h d same => Option.some.inj same ▸ h, fun h => h c rfl⟩
  rw [isCapitalName, Bool.and_eq_true, first, List.all_eq_true]
  simp only [letter]
  exact ⟨fun ⟨letters, start⟩ => ⟨letters, start⟩, fun h => ⟨h.letters, h.start⟩⟩

/-- A word of small letters as it may be written when case is ignored. -/
def IsWriting (word written : List Char) : Prop :=
  List.Forall₂ (fun letter c => c ∈ writingsOf letter) word written

theorem sameWord_iff_isWriting (small : ∀ letter ∈ word, letter ∈ smallLetters) :
    sameWord written word = true ↔ IsWriting word written := by
  induction word generalizing written with
  | nil =>
      cases written with
      | nil => exact iff_of_true rfl .nil
      | cons c rest => exact iff_of_false Bool.false_ne_true nofun
  | cons letter word ih =>
      obtain ⟨here, later⟩ := List.forall_mem_cons.mp small
      cases written with
      | nil => exact iff_of_false Bool.false_ne_true nofun
      | cons c rest =>
          rw [sameWord, Bool.and_eq_true, sameLetter_iff_mem_writingsOf here, ih later]
          simp only [IsWriting, List.forall₂_cons]

/-- The words that speak of returning a value, in small letters. -/
theorem small_of_mem_returnWords (h : word ∈ returnWords) :
    ∀ letter ∈ word, letter ∈ smallLetters := by
  have table : (returnWords.all fun word => word.all smallLetters.contains) = true := by
    decide +kernel
  have letters := List.all_eq_true.mp table word h
  intro letter member
  exact List.contains_iff_mem.mp (List.all_eq_true.mp letters letter member)

end Narrative

namespace Comment

open Narrative Text

variable {comment : Comment} {parameter : Parameter}

theorem mem_words_iff {word : List Char} :
    word ∈ comment.words ↔ ∃ line ∈ comment.lines, IsRun line.toList word := by
  simp only [words, List.mem_flatMap, Text.mem_words_iff]

theorem mentions_iff :
    comment.mentions parameter = true ↔
      ∃ line ∈ comment.lines, ∃ word, IsRun line.toList word ∧ IsCapitalWord word ∧
        lower word = lower parameter.bareName.toList := by
  simp only [mentions, List.any_eq_true, Bool.and_eq_true, isCapitalName_iff, beq_iff_eq]
  constructor
  · rintro ⟨word, member, capital, same⟩
    obtain ⟨line, inComment, run⟩ := mem_words_iff.mp member
    exact ⟨line, inComment, word, run, capital, same⟩
  · rintro ⟨line, inComment, word, run, capital, same⟩
    exact ⟨word, mem_words_iff.mpr ⟨line, inComment, run⟩, capital, same⟩

theorem mentionsReturn_iff :
    comment.mentionsReturn = true ↔
      ∃ line ∈ comment.lines, ∃ word, IsRun line.toList word ∧
        ∃ form ∈ returnWords, IsWriting form word := by
  simp only [mentionsReturn, List.any_eq_true]
  constructor
  · rintro ⟨word, member, form, known, same⟩
    obtain ⟨line, inComment, run⟩ := mem_words_iff.mp member
    exact ⟨line, inComment, word, run, form, known,
      (sameWord_iff_isWriting (small_of_mem_returnWords known)).mp same⟩
  · rintro ⟨line, inComment, word, run, form, known, written⟩
    exact ⟨word, mem_words_iff.mpr ⟨line, inComment, run⟩, form, known,
      (sameWord_iff_isWriting (small_of_mem_returnWords known)).mpr written⟩

/-- The tag names that are found in running text are those of the parameters whose name, in
capitals, is a whole word of some line. A result is found if some whole word is one of six forms,
with the case of its letters ignored. -/
theorem narrative_detects_whole_words (comment : Comment) (parameters : List Parameter) :
    (∀ name, name ∈ comment.mentioned parameters ↔
        ∃ parameter ∈ parameters, parameter.tagName = name ∧
          ∃ line ∈ comment.lines, ∃ word, IsRun line.toList word ∧ IsCapitalWord word ∧
            lower word = lower parameter.bareName.toList) ∧
      (comment.mentionsReturn = true ↔
        ∃ line ∈ comment.lines, ∃ word, IsRun line.toList word ∧
          ∃ form ∈ ["return", "returns", "returning", "yield", "yields", "yielding"],
            IsWriting form.toList word) := by
  constructor
  · intro name
    simp only [mentioned, List.mem_map, List.mem_filter, ← mentions_iff]
    constructor
    · rintro ⟨parameter, ⟨member, found⟩, rfl⟩
      exact ⟨parameter, member, rfl, found⟩
    · rintro ⟨parameter, member, rfl, found⟩
      exact ⟨parameter, ⟨member, found⟩, rfl⟩
  · simp only [mentionsReturn_iff, returnWords, List.mem_map, exists_exists_and_eq_and]

/-- Parts of words do not count, and the dotless i counts as an i. -/
example :
    mentionsReturn ⟨["REturned", "returné, preturn"], ⟨1, 1⟩⟩ = false ∧
      mentionsReturn ⟨["YIELDıNG"], ⟨1, 1⟩⟩ = true ∧
      mentioned ⟨["X1y, ÀX and X1_"], ⟨1, 1⟩⟩
        [⟨"x", false, none, none⟩, ⟨"x1_", true, none, none⟩] = ["<x1_>"] := by
  decide +kernel

end Comment

end JavadocAudit

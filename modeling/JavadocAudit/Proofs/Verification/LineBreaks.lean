import JavadocAudit.Proofs.Tag.Padding
import JavadocAudit.Proofs.Text.Line
import JavadocAudit.Proofs.Verification.Findings
import Mathlib.Data.List.Forall2

/-!
# Line breaks of either kind

A text may end its lines with a line feed, or with a carriage return before it. Comments are cut at
the line feeds alone, so in the second case every line but the last has a carriage return at its
end. That is a blank behind the line: it changes none of the tags of the line and none of its words.
And what is found about a comment depends on nothing but its tags, its words and its start.
-/

namespace JavadocAudit

namespace Text

/-- The text with a carriage return before every line feed. -/
def withReturns (cs : List Char) : List Char :=
  cs.flatMap fun c => if c = '\n' then ['\r', '\n'] else [c]

theorem withReturns_cons_of_ne {c : Char} (h : c ≠ '\n') (rest : List Char) :
    withReturns (c :: rest) = c :: withReturns rest := by
  simp [withReturns, h]

/-- The second text is the first, a single line, with or without a carriage return at its end. -/
def SameLine (line line' : List Char) : Prop :=
  '\n' ∉ line ∧ (line' = line ∨ line' = line ++ ['\r'])

theorem SameLine.cons {c : Char} {line line' : List Char} (h : c ≠ '\n')
    (same : SameLine line line') : SameLine (c :: line) (c :: line') := by
  obtain ⟨oneLine, rfl | rfl⟩ := same
  · exact ⟨by simp [h.symm, oneLine], .inl rfl⟩
  · exact ⟨by simp [h.symm, oneLine], .inr rfl⟩

/-- Carriage returns stay at the ends of their lines. -/
theorem splitLines_withReturns (cs : List Char) :
    List.Forall₂ SameLine (splitLines cs) (splitLines (withReturns cs)) := by
  induction cs with
  | nil => exact .cons ⟨by simp, .inl rfl⟩ .nil
  | cons c rest ih =>
      by_cases h : c = '\n'
      · subst h
        exact .cons ⟨by simp, .inr rfl⟩ ih
      · rw [withReturns_cons_of_ne h]
        cases lines : splitLines rest with
        | nil => exact absurd lines (splitLines_ne_nil rest)
        | cons line others =>
            rw [lines] at ih
            cases lines' : splitLines (withReturns rest) with
            | nil => exact absurd lines' (splitLines_ne_nil _)
            | cons line' others' =>
                rw [lines'] at ih
                obtain ⟨first, more⟩ := List.forall₂_cons.mp ih
                rw [splitLines_cons_of_eq_cons h lines, splitLines_cons_of_eq_cons h lines']
                exact .cons (first.cons h) more

end Text

namespace Comment

open Text

/-- The words of a comment are those of its lines. -/
theorem words_congr {comment comment' : Comment}
    (same : comment.lines.map (fun line => Text.words line.toList) =
      comment'.lines.map fun line => Text.words line.toList) :
    comment.words = comment'.words := by
  rw [words, List.flatMap_def, same, words, List.flatMap_def]

/-- The comment with a given text in which every line break has a carriage return. -/
def ofTextWithReturns (text : String) (start : Position) : Comment :=
  ofText (String.ofList (withReturns text.toList)) start

/-- What is read in a line without regard to a carriage return at its end is the same for all
lines. -/
theorem map_lines_ofTextWithReturns {β : Type} {read : List Char → β}
    (blind : ∀ line, '\n' ∉ line → read (line ++ ['\r']) = read line) (text : String)
    (start : Position) :
    (ofTextWithReturns text start).lines.map (fun line => read line.toList) =
      (ofText text start).lines.map fun line => read line.toList := by
  have lineByLine : List.Forall₂ (fun line line' => read line = read line')
      (splitLines text.toList) (splitLines (withReturns text.toList)) := by
    refine (splitLines_withReturns text.toList).imp ?_
    rintro line line' ⟨oneLine, rfl | rfl⟩
    · rfl
    · exact (blind line oneLine).symm
  have same := Eq.mp (congrFun₂ List.forall₂_eq_eq_eq _ _)
    (List.forall₂_map_left_iff.mpr (List.forall₂_map_right_iff.mpr lineByLine))
  simpa [ofTextWithReturns, ofText, Function.comp_def] using same.symm

theorem tags_ofTextWithReturns (text : String) (start : Position) :
    (ofTextWithReturns text start).tags = (ofText text start).tags := by
  have lines := map_lines_ofTextWithReturns
    (fun line (oneLine : '\n' ∉ line) =>
      Tag.ofLine_append_blanks (by simp [isBlank_return]) (by simp [oneLine])) text start
  rw [tags_eq_flatMap, lines, tags_eq_flatMap]
  rfl

theorem words_ofTextWithReturns (text : String) (start : Position) :
    (ofTextWithReturns text start).words = (ofText text start).words := by
  refine words_congr (map_lines_ofTextWithReturns ?_ text start)
  intro line oneLine
  exact words_append_blanks (by simp [isBlank_return]) line

end Comment

open Comment in
/-- Whether lines end with a line feed alone or with a carriage return before it, a comment has the
same tags at the same positions, mentions the same, and gives the same findings. -/
theorem line_breaks_of_either_kind {α : Type} (settings : Settings) (resolver : Resolver α)
    (signature : Signature) (text : String) (start : Position) :
    (ofTextWithReturns text start).tags = (ofText text start).tags ∧
      (ofTextWithReturns text start).mentionsReturn = (ofText text start).mentionsReturn ∧
      (∀ parameters, (ofTextWithReturns text start).mentioned parameters =
        (ofText text start).mentioned parameters) ∧
      verify settings resolver signature (some (ofTextWithReturns text start)) =
        verify settings resolver signature (some (ofText text start)) := by
  have tags := tags_ofTextWithReturns text start
  have words := words_ofTextWithReturns text start
  refine ⟨tags, ?_, fun parameters => ?_, ?_⟩
  · exact Verification.mentionsReturn_congr (.of_eq words)
  · rw [mentioned, Verification.mentions_congr (.of_eq words), mentioned]
  · exact Verification.verify_congr_comment settings resolver signature rfl tags words

end JavadocAudit

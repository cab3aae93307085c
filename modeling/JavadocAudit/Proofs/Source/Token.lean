import JavadocAudit.Proofs.Source.Place
import JavadocAudit.Source.Token.Scan

/-!
# Tokens and remarks stand where they say

Cutting a source text into tokens loses no character and invents none. Every token, and every remark
between two tokens, occurs in the text at the point that it carries. A token that is a word is
made of the characters of identifiers.
-/

namespace JavadocAudit.Source.Token

open Text

/-- A remark or a blank of the given length starts the text. -/
inductive Skips : List Char → Nat → Prop where
  | line (rest : List Char) : Skips ('/' :: '/' :: rest) (2 + runLength (· ≠ '\n') rest)
  | block {rest : List Char} {length : Nat} (ends : remarkLength? rest = some length) :
      Skips ('/' :: '*' :: rest) (2 + length)
  | space {c : Char} (rest : List Char) (space : isSpace c = true) : Skips (c :: rest) 1

/-- One step over the text before a token: nothing is left to be skipped, or a remark or a blank is
skipped. -/
theorem gap?_succ_cases {fuel : Nat} {point : Point} {cs rest : List Char} {gap : Gap}
    (h : gap? (fuel + 1) point cs = some (gap, rest)) :
    (gap = {} ∧ rest = cs) ∨
    ∃ (length : Nat) (remarks : List Remark) (between : Gap), Skips cs length ∧
      gap? fuel (point.advance (cs.take length)) (cs.drop length) = some (between, rest) ∧
      gap = ⟨cs.take length ++ between.text, remarks ++ between.remarks⟩ ∧
      ∀ r ∈ remarks, r.text = String.ofList (cs.take length) ∧ r.point = point := by
  have skipped {length : Nat} (skips : Skips cs length) (remarks : List Remark)
      (h : ((gap? fuel (point.advance (cs.take length)) (cs.drop length)).bind fun found =>
        some (⟨cs.take length ++ found.1.text, remarks ++ found.1.remarks⟩, found.2)) =
          some (gap, rest))
      (only : ∀ r ∈ remarks, r.text = String.ofList (cs.take length) ∧ r.point = point) :
      ∃ (length : Nat) (remarks : List Remark) (between : Gap), Skips cs length ∧
        gap? fuel (point.advance (cs.take length)) (cs.drop length) = some (between, rest) ∧
        gap = ⟨cs.take length ++ between.text, remarks ++ between.remarks⟩ ∧
        ∀ r ∈ remarks, r.text = String.ofList (cs.take length) ∧ r.point = point := by
    obtain ⟨⟨between, rest'⟩, inner, equal⟩ := Option.bind_eq_some_iff.mp h
    obtain ⟨rfl, rfl⟩ := Prod.mk.inj (Option.some.inj equal)
    exact ⟨length, remarks, between, skips, inner, rfl, only⟩
  unfold gap? at h
  dsimp only at h
  split at h
  · next rest => exact .inr (skipped (.line rest) [⟨_, false, point⟩] h (by simp))
  · split at h
    · cases h
    · next ends => exact .inr (skipped (.block ends) [⟨_, true, point⟩] h (by simp))
  · next rest _ _ =>
      split at h
      · next space => exact .inr (skipped (.space rest space) [] h (by simp))
      · obtain ⟨rfl, rfl⟩ := Prod.mk.inj (Option.some.inj h)
        exact .inl ⟨rfl, rfl⟩
  · obtain ⟨rfl, rfl⟩ := Prod.mk.inj (Option.some.inj h)
    exact .inl ⟨rfl, rfl⟩

/-- What stands before a token is the text that was skipped, and its remarks occur in it. -/
theorem gap?_spec {fuel : Nat} {point : Point} {cs rest : List Char} {gap : Gap}
    (h : gap? fuel point cs = some (gap, rest)) :
    cs = gap.text ++ rest ∧
      ∀ r ∈ gap.remarks, Occurs Point.next point gap.text r.point r.text.toList := by
  induction fuel generalizing point cs gap with
  | zero =>
      obtain ⟨rfl, rfl⟩ := Prod.mk.inj (Option.some.inj h)
      exact ⟨rfl, by simp⟩
  | succ fuel ih =>
      rcases gap?_succ_cases h with ⟨rfl, rfl⟩ | ⟨length, remarks, between, -, inner, rfl, only⟩
      · exact ⟨rfl, by simp⟩
      · obtain ⟨split, occurs⟩ := ih inner
        refine ⟨?_, ?_⟩
        · rw [List.append_assoc, ← split, List.take_append_drop]
        · intro r member
          rcases List.mem_append.mp member with member | member
          · obtain ⟨text, point⟩ := only r member
            rw [text, point, String.toList_ofList]
            exact .here _ _ _ _
          · exact (occurs r member).append_left

/-- A token stands where it says in a text that starts at a point, and so do the remarks before it.
A word has nothing but characters of identifiers. -/
structure StandsIn (start : Point) (text : List Char) (token : Token) : Prop where
  occurs : Occurs Point.next start text token.point token.text.toList
  remarks : ∀ r ∈ token.remarks, Occurs Point.next start text r.point r.text.toList
  word : token.kind = .word → ∀ c ∈ token.text.toList, isIdentifierPart c = true

theorem StandsIn.append_left {start : Point} {front text : List Char} {token : Token}
    (h : StandsIn (start.advance front) text token) : StandsIn start (front ++ text) token :=
  ⟨h.occurs.append_left, fun r member => (h.remarks r member).append_left, h.word⟩

/-- A word is the run of identifier characters that starts a text, the first of which can start an
identifier. -/
theorem take_of_next?_eq_word {cs : List Char} {length : Nat}
    (h : next? cs = some (.word, length)) :
    cs.take length = cs.takeWhile isIdentifierPart ∧ cs.head?.any isIdentifierStart = true := by
  unfold next? at h
  split at h
  · cases h
  · obtain ⟨n, -, equal⟩ := Option.map_eq_some_iff.mp h
    cases equal
  · obtain ⟨n, -, equal⟩ := Option.map_eq_some_iff.mp h
    cases equal
  · split at h
    · split at h <;> cases h
    · cases h
  · split at h
    · next start =>
        obtain ⟨-, rfl⟩ := Prod.mk.inj (Option.some.inj h)
        exact ⟨(List.prefix_iff_eq_take.mp (List.takeWhile_prefix isIdentifierPart)).symm, start⟩
    · split at h
      · cases h
      · obtain ⟨n, -, equal⟩ := Option.map_eq_some_iff.mp h
        cases equal

/-- One step of the scan: the text before a token, the token, and the rest. -/
theorem scanFrom_succ_cases {fuel : Nat} {point : Point} {cs : List Char}
    {tokens : List Token} (h : scanFrom (fuel + 1) point cs = some tokens) :
    tokens = [] ∨
    ∃ (gap : Gap) (rest : List Char) (kind : Kind) (length : Nat) (later : List Token),
      gap? (fuel + 1) point cs = some (gap, rest) ∧ next? rest = some (kind, length) ∧
      scanFrom fuel ((point.advance gap.text).advance (rest.take length))
        (rest.drop length) = some later ∧
      tokens = ⟨kind, String.ofList (rest.take length), point.advance gap.text,
        String.ofList gap.text, gap.remarks⟩ :: later := by
  rw [scanFrom] at h
  obtain ⟨⟨gap, rest⟩, skipped, h⟩ := Option.bind_eq_some_iff.mp h
  dsimp only at h
  split at h
  · exact .inl (Option.some.inj h).symm
  · obtain ⟨⟨kind, length⟩, next, h⟩ := Option.bind_eq_some_iff.mp h
    obtain ⟨later, scanned, h⟩ := Option.bind_eq_some_iff.mp h
    exact .inr ⟨gap, rest, kind, length, later, skipped, next, scanned, (Option.some.inj h).symm⟩

theorem standsIn_of_scanFrom {fuel : Nat} {point : Point} {cs : List Char}
    {tokens : List Token} (h : scanFrom fuel point cs = some tokens) :
    ∀ token ∈ tokens, StandsIn point cs token := by
  induction fuel generalizing point cs tokens with
  | zero => cases h
  | succ fuel ih =>
      rcases scanFrom_succ_cases h with rfl |
        ⟨gap, rest, kind, length, later, skipped, next, scanned, rfl⟩
      · simp
      · obtain ⟨rfl, remarks⟩ := gap?_spec skipped
        intro token member
        rcases List.mem_cons.mp member with rfl | member
        · refine ⟨?_, fun r member => (remarks r member).append_right rest, ?_⟩
          · rw [String.toList_ofList]
            have first := Occurs.here Point.next (point.advance gap.text) (rest.take length)
              (rest.drop length)
            rw [List.take_append_drop] at first
            exact first.append_left
          · rintro rfl c inWord
            rw [String.toList_ofList, (take_of_next?_eq_word next).1] at inWord
            exact List.all_eq_true.mp List.all_takeWhile c inWord
        · have later := (ih scanned token member).append_left
          rw [List.take_append_drop] at later
          exact later.append_left

/-- Every token of a source text stands where it says. -/
theorem standsIn_of_scan {text : List Char} {tokens : List Token} (h : scan text = some tokens) :
    ∀ token ∈ tokens, StandsIn ⟨0, 0⟩ text token := by
  unfold scan at h
  split at h
  · next rest =>
      intro token member
      have behind : StandsIn (Point.advance ⟨0, 0⟩ ['\ufeff']) rest token :=
        standsIn_of_scanFrom h token member
      exact behind.append_left
  · exact standsIn_of_scanFrom h

end JavadocAudit.Source.Token

import JavadocAudit.Proofs.Verification.Wording
import Mathlib

/-!
# A line tells its finding

The line that reports a finding shows its position, its kind and its arguments, and it can be read
back. The numbers of the position end at the next colon, since a number has no colon. The kinds are
told apart by how their wordings open, and no such opening starts another. What is left of a wording
after its fixed parts is the argument, whatever characters it has; only the name of a tag of no use
is found by the next space, since the name of a tag has no space.
-/

namespace JavadocAudit

namespace Diagnostic

/-- A text is split in one way at the first place where a character stands. -/
theorem split_at_first_unique {c : Char} {front front' back back' : List Char} (h : c ∉ front)
    (h' : c ∉ front') (same : front ++ c :: back = front' ++ c :: back') :
    front = front' ∧ back = back' := by
  rcases List.append_eq_append_iff.mp same with ⟨extra, longer, rest⟩ | ⟨extra, longer, rest⟩
  · cases extra with
    | nil => simpa [longer] using rest
    | cons d extra =>
        obtain ⟨rfl, -⟩ := List.cons.inj rest
        exact absurd (longer ▸ by simp) h'
  · cases extra with
    | nil => simpa [longer] using rest.symm
    | cons d extra =>
        obtain ⟨rfl, -⟩ := List.cons.inj rest
        exact absurd (longer ▸ by simp) h

theorem colon_not_mem_toString (n : Int) : ':' ∉ (toString n).toList := by
  have digits (m : Nat) : ':' ∉ Nat.toDigits 10 m := by
    intro member
    have digit := Nat.isDigit_of_mem_toDigits (by decide) (by decide) member
    exact absurd digit (by decide)
  rw [Int.toString_eq_repr, Int.repr_eq_if]
  split <;> simp [digits]

/-- Two lines for the same path show the same position and the same wording. -/
theorem position_and_message_of_report {path message message' : String} {p p' : Position}
    (same : path ++ ":" ++ toString p.line ++ ":" ++ toString p.column ++ ": " ++ message =
      path ++ ":" ++ toString p'.line ++ ":" ++ toString p'.column ++ ": " ++ message') :
    p = p' ∧ message = message' := by
  have numbers : (toString p.line).toList ++ ':' :: ((toString p.column).toList ++
        ':' :: ' ' :: message.toList) =
      (toString p'.line).toList ++ ':' :: ((toString p'.column).toList ++
        ':' :: ' ' :: message'.toList) := by
    rw [← String.toList_inj] at same
    simpa using same
  obtain ⟨line, rest⟩ :=
    split_at_first_unique (colon_not_mem_toString _) (colon_not_mem_toString _) numbers
  obtain ⟨column, rest⟩ :=
    split_at_first_unique (colon_not_mem_toString _) (colon_not_mem_toString _) rest
  have sameLine : p.line = p'.line := Int.repr_injective (String.toList_inj.mp line)
  have sameColumn : p.column = p'.column := Int.repr_injective (String.toList_inj.mp column)
  constructor
  · cases p
    cases p'
    simp_all
  · exact String.toList_inj.mp (List.cons.inj rest).2

/-- How the wordings of the findings of a kind open. -/
def Kind.opening : Kind → String
  | .missingJavadoc => "Missing"
  | .invalidInheritDoc => "Invalid"
  | .expectedParam => "Expected @param"
  | .expectedReturn => "Expected an"
  | .expectedThrows => "Expected @throws"
  | .duplicateTag => "Duplicate"
  | .unusedTag => "Unused"
  | .mixedStyle => "Mixed"

theorem Kind.eq_of_opening {kind kind' : Kind}
    (starts : kind.opening.toList <+: kind'.opening.toList) : kind = kind' := by
  cases kind <;> cases kind' <;> first | rfl | exact absurd starts (by decide)

theorem IsFinding.message_opens {d : Diagnostic} {message : String} (h : d.IsFinding)
    (worded : d.message? = some message) : d.kind.opening.toList <+: message.toList := by
  cases h with
  | unusedTag position named argument =>
      cases argument <;> obtain rfl := Option.some.inj worded <;> simp [Kind.opening]
  | _ => obtain rfl := Option.some.inj worded; simp [Kind.opening]

/-- What the wording of a tag of no use says after the name of the tag. -/
def unusedEnding : Option String → String
  | none => "tag."
  | some name => "tag for '" ++ name ++ "'."

theorem unusedEnding_injective {argument argument' : Option String}
    (same : unusedEnding argument = unusedEnding argument') : argument = argument' := by
  cases argument <;> cases argument' <;> simp_all [unusedEnding, ← String.toList_inj]

theorem message?_unused (position : Position) (name : String) (argument : Option String) :
    message? ⟨.unusedTag, position, ("@" ++ name) :: argument.toList⟩ =
      some ("Unused @" ++ name ++ " " ++ unusedEnding argument) := by
  cases argument <;> simp [message?, unusedEnding, ← String.toList_inj]

theorem space_not_mem_of_mem_blockNames {name : String} (named : name ∈ Tag.blockNames) :
    ' ' ∉ name.toList := by
  revert name
  decide

/-- Two wordings of the same kind show the same arguments. -/
theorem IsFinding.args_eq {kind : Kind} {position position' : Position} {args args' : List String}
    (h : IsFinding ⟨kind, position, args⟩) (h' : IsFinding ⟨kind, position', args'⟩)
    (same : message? ⟨kind, position, args⟩ = message? ⟨kind, position', args'⟩) :
    args = args' := by
  have shown (front name name' back : String)
      (same : some (front ++ name ++ back) = some (front ++ name' ++ back)) : name = name' :=
    (String.append_right_inj front).mp ((String.append_left_inj back).mp (Option.some.inj same))
  cases h with
  | missingJavadoc | invalidInheritDoc | expectedReturn | duplicateTag | mixedStyle =>
      cases h'
      rfl
  | expectedParam _ name =>
      cases h' with | expectedParam _ name' =>
      rw [shown _ name name' _ same]
  | expectedThrows _ name =>
      cases h' with | expectedThrows _ name' =>
      rw [shown _ name name' _ same]
  | @unusedTag _ name named argument =>
      cases h' with | @unusedTag _ name' named' argument' =>
      rw [message?_unused, message?_unused, Option.some_inj, ← String.toList_inj] at same
      have split : name.toList ++ ' ' :: (unusedEnding argument).toList =
          name'.toList ++ ' ' :: (unusedEnding argument').toList := by
        simpa using same
      obtain ⟨sameName, ending⟩ := split_at_first_unique (space_not_mem_of_mem_blockNames named)
        (space_not_mem_of_mem_blockNames named') split
      rw [String.toList_inj.mp sameName, unusedEnding_injective (String.toList_inj.mp ending)]

/-- The line of a finding is the line of no other finding. -/
theorem IsFinding.eq_of_report?_eq {d d' : Diagnostic} {path line : String} (h : d.IsFinding)
    (h' : d'.IsFinding) (shown : d.report? path = some line)
    (shown' : d'.report? path = some line) : d = d' := by
  obtain ⟨message, worded, -⟩ := h.exists_message
  obtain ⟨message', worded', -⟩ := h'.exists_message
  rw [report?_of_message? worded] at shown
  rw [report?_of_message? worded'] at shown'
  obtain ⟨position, rfl⟩ :=
    position_and_message_of_report (Option.some.inj (shown.trans shown'.symm))
  have kind : d.kind = d'.kind := by
    rcases List.prefix_or_prefix_of_prefix (h.message_opens worded) (h'.message_opens worded')
      with starts | starts
    · exact Kind.eq_of_opening starts
    · exact (Kind.eq_of_opening starts).symm
  obtain ⟨k, p, args⟩ := d
  obtain ⟨k', p', args'⟩ := d'
  obtain rfl : k = k' := kind
  obtain rfl : p = p' := position
  rw [h.args_eq h' (worded.trans worded'.symm)]

end Diagnostic

namespace Verification

/-- Two findings of any two declarations have the same line only if they are the same finding, and
every finding has a line. -/
theorem line_determines_finding {α β : Type} {settings settings' : Settings}
    {resolver : Resolver α} {resolver' : Resolver β} {signature signature' : Signature}
    {comment comment' : Option Comment} {finding finding' : Diagnostic}
    (h : finding ∈ verify settings resolver signature comment)
    (h' : finding' ∈ verify settings' resolver' signature' comment') (path : String) :
    ∃ line, finding.report? path = some line ∧
      (finding'.report? path = some line ↔ finding = finding') := by
  obtain ⟨message, worded, -⟩ := (isFinding_of_mem_verify h).exists_message
  have shown := Diagnostic.report?_of_message? worded path
  refine ⟨_, shown, ?_, ?_⟩
  · exact (isFinding_of_mem_verify h).eq_of_report?_eq (isFinding_of_mem_verify h') shown
  · intro same
    exact same ▸ shown

/-- A parameter and an exception at the same place, with the same name. -/
def clashSignature : Signature where
  name := "run"
  position := ⟨3, 8⟩
  parameters := [⟨"E'.", false, some 3, some 14⟩]
  exceptions := [⟨"E'.", some 3, some 14⟩]

def clashFindings : List Diagnostic :=
  verify {} (ClassTable.withStandard []).resolver clashSignature (some ⟨["/** Runs. */"], ⟨1, 1⟩⟩)

/-- The two are reported with different lines. -/
theorem clash_is_told_apart :
    ⟨.expectedParam, ⟨3, 14⟩, ["@param", "E'."]⟩ ∈ clashFindings ∧
      ⟨.expectedThrows, ⟨3, 14⟩, ["@throws", "E'."]⟩ ∈ clashFindings ∧
      ∃ line, Diagnostic.report? "A.java" ⟨.expectedParam, ⟨3, 14⟩, ["@param", "E'."]⟩ = some line ∧
        Diagnostic.report? "A.java" ⟨.expectedThrows, ⟨3, 14⟩, ["@throws", "E'."]⟩ ≠ some line := by
  have param : ⟨.expectedParam, ⟨3, 14⟩, ["@param", "E'."]⟩ ∈ clashFindings := by decide +kernel
  have throws : ⟨.expectedThrows, ⟨3, 14⟩, ["@throws", "E'."]⟩ ∈ clashFindings := by decide +kernel
  obtain ⟨line, shown, same⟩ := line_determines_finding param throws "A.java"
  refine ⟨param, throws, line, shown, ?_⟩
  intro shown'
  exact absurd (same.mp shown') (by decide)

end Verification

end JavadocAudit

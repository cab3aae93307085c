import JavadocAudit.Proofs.Tag.Place

/-!
# Blanks at the end of a line

A line may be followed by blanks that belong to a line break. Every step of reading its tags leaves
them where they are or takes them away: decoration and names end before them, they are dropped with
the end of the comment, an argument ends before them, and descriptions are trimmed. So they add
nothing, and take nothing away, as long as they do not start another line.
-/

namespace JavadocAudit.Tag

open Text

theorem spansLines_eq_false {cs : List Char} (oneLine : '\n' ∉ cs) : spansLines cs = false := by
  induction cs with
  | nil => rfl
  | cons c rest ih =>
      obtain ⟨here, later⟩ : c ≠ '\n' ∧ '\n' ∉ rest := by
        simpa [eq_comm] using oneLine
      simp [spansLines, here, ih later]

/-- In a single line, the text behind a name has an argument if it starts with a blank and has a
word in it. -/
theorem splitArgument?_of_oneLine {cs : List Char} (oneLine : '\n' ∉ cs) :
    splitArgument? cs =
      if (trimStart cs).length = cs.length || (trimStart cs).isEmpty then none
      else some ((trimStart cs).takeWhile (!isBlank ·),
        trimStart ((trimStart cs).dropWhile (!isBlank ·))) := by
  have rest : spansLines (trimStart ((trimStart cs).dropWhile (!isBlank ·))) = false := by
    refine spansLines_eq_false fun feed => oneLine ?_
    exact ((List.dropWhile_suffix _).trans
      ((List.dropWhile_suffix _).trans (List.dropWhile_suffix _))).subset feed
  simp only [splitArgument?, rest, Bool.or_false]

/-- Nothing but an end is dropped with the end of the comment. -/
theorem isPrefix_dropClosing (cs : List Char) : dropClosing cs <+: cs := by
  unfold dropClosing
  split
  · next rest closing =>
      rw [← List.reverse_suffix, List.reverse_reverse]
      have inText : '/' :: '*' :: rest <:+ cs.reverse := closing ▸ List.dropWhile_suffix isBlank
      exact (((List.dropWhile_suffix _).trans (List.dropWhile_suffix _)).trans
        ((List.suffix_cons _ _).trans (List.suffix_cons _ _))).trans inText
  · exact List.prefix_refl cs

/-- Only the end of a comment is dropped. -/
theorem dropClosing_eq_self {cs : List Char} (h : ¬['*', '/'] <:+: cs) : dropClosing cs = cs := by
  unfold dropClosing
  split
  · next rest closing =>
      have suffix : '/' :: '*' :: rest <:+ cs.reverse := closing ▸ List.dropWhile_suffix isBlank
      have front : rest.reverse ++ ['*', '/'] <+: cs := by
        simpa using List.reverse_prefix.mpr suffix
      exact absurd ((List.suffix_append _ _).isInfix.trans front.isInfix) h
  · rfl

/-- No name starts with a blank. -/
theorem isNameStart_eq_false_of_isBlank {c : Char} (h : isBlank c = true) :
    isNameStart c = false := by
  obtain ⟨range, member, low, high⟩ := CodeRanges.exists_of_contains h
  have apart : ∀ range ∈ blankRanges, ∀ n ∈ List.range' range.1 (range.2 + 1 - range.1),
      isNameStart (Char.ofNat n) = false := by decide +kernel
  have here := apart range member c.toNat (List.mem_range'_1.mpr ⟨low, by omega⟩)
  rwa [Char.ofNat_toNat] at here

theorem blockTag?_of_sign {line rest : List Char} {c : Char}
    (sign : fromAtSign line = '@' :: c :: rest) (start : isNameStart c = true) :
    blockTag? line = some (blockTag (line.length - (rest.length + 2)) (c :: rest.takeWhile isWord)
      (dropClosing (rest.dropWhile isWord))) := by
  simp [blockTag?, sign, start]

/-- A line has no block tag if no name follows an at sign at its start. -/
theorem blockTag?_eq_none_iff {line : List Char} :
    blockTag? line = none ↔
      ∀ c rest, fromAtSign line = '@' :: c :: rest → isNameStart c = false := by
  constructor
  · intro none c rest sign
    by_contra start
    rw [blockTag?_of_sign sign (by simpa using start)] at none
    cases none
  · intro unnamed
    unfold blockTag?
    split
    · next c rest sign => simp [unnamed c rest sign]
    · rfl

/-- The text of a block tag is part of the line. -/
theorem newline_not_mem_tagText {line rest : List Char} {c : Char}
    (sign : fromAtSign line = '@' :: c :: rest) (oneLine : '\n' ∉ line) :
    '\n' ∉ dropClosing (rest.dropWhile isWord) := by
  intro feed
  obtain ⟨front, split, -⟩ := exists_append_fromAtSign line
  have inRest : '\n' ∈ rest :=
    (List.dropWhile_suffix _).subset ((isPrefix_dropClosing _).subset feed)
  rw [split, sign] at oneLine
  simp [inRest] at oneLine

section Blanks

variable {blanks : List Char} (blank : ∀ c ∈ blanks, isBlank c = true)
include blank

theorem dropDecoration_append_blanks (cs : List Char) :
    dropDecoration (cs ++ blanks) = dropDecoration cs ++ blanks := by
  have stars (rest : List Char) : (rest ++ blanks).dropWhile (· = '*') =
      rest.dropWhile (· = '*') ++ blanks := by
    refine dropWhile_append_blanks blank (fun c blankChar => ?_) rest
    refine decide_eq_false fun star => ?_
    rw [star] at blankChar
    cases blankChar
  fun_cases dropDecoration cs with
  | case1 rest => exact stars rest
  | case2 rest => exact stars rest
  | case3 cs notOpening notStars =>
      unfold dropDecoration
      split
      · next rest opening =>
          obtain ⟨more, rfl⟩ := exists_of_append_blanks_eq blank ['/', '*'] opening (by decide)
          exact absurd rfl (notOpening more)
      · next rest star =>
          obtain ⟨more, rfl⟩ := exists_of_append_blanks_eq blank [] star (by decide)
          exact absurd rfl (notStars more)
      · rfl

theorem fromAtSign_append_blanks (line : List Char) :
    fromAtSign (line ++ blanks) =
      if (fromAtSign line).isEmpty then [] else fromAtSign line ++ blanks := by
  unfold fromAtSign
  rw [trimStart_append_blanks blank]
  split
  · next empty =>
      rw [List.isEmpty_iff.mp empty]
      rfl
  · rw [dropDecoration_append_blanks blank, trimStart_append_blanks blank]

/-- Blanks are dropped with the end of the comment, or stay behind the text. -/
theorem dropClosing_append_blanks (cs : List Char) :
    dropClosing (cs ++ blanks) = dropClosing cs ∨
      dropClosing (cs ++ blanks) = dropClosing cs ++ blanks := by
  have reversed : ∀ c ∈ blanks.reverse, isBlank c = true :=
    fun c member => blank c (List.mem_reverse.mp member)
  unfold dropClosing
  rw [List.reverse_append, List.dropWhile_append_of_pos reversed]
  split
  · exact .inl rfl
  · exact .inr rfl

section OneLine

variable {cs : List Char} (oneLine : '\n' ∉ cs ++ blanks)
include oneLine

/-- The argument ends before the blanks, and they stand behind the rest, if there is one. -/
theorem splitArgument?_append_blanks :
    (splitArgument? (cs ++ blanks)).map (Prod.map id trim) =
      (splitArgument? cs).map (Prod.map id trim) := by
  have inText : '\n' ∉ cs := fun feed => oneLine (List.mem_append_left blanks feed)
  have stops (c : Char) (h : isBlank c = true) : (!isBlank c) = false := by rw [h]; rfl
  rw [splitArgument?_of_oneLine oneLine, splitArgument?_of_oneLine inText,
    trimStart_append_blanks blank]
  cases empty : (trimStart cs).isEmpty with
  | true => simp
  | false =>
      have length : (trimStart cs ++ blanks).length = (cs ++ blanks).length ↔
          (trimStart cs).length = cs.length := by
        simp
      have nonempty : (trimStart cs ++ blanks).isEmpty = false := by
        rw [List.isEmpty_eq_false_iff] at empty ⊢
        exact List.append_ne_nil_of_left_ne_nil empty blanks
      simp only [Bool.false_eq_true, if_false, length, nonempty,
        takeWhile_append_blanks blank stops, dropWhile_append_blanks blank stops]
      split
      · rfl
      · simp only [Option.map_some, Prod.map, trim_trimStart, trim_append_blanks blank]

theorem blockTag_append_blanks (offset : Nat) (name : List Char) :
    blockTag offset name (cs ++ blanks) = blockTag offset name cs := by
  have split := splitArgument?_append_blanks blank oneLine
  simp only [blockTag, trim_append_blanks blank]
  cases found : splitArgument? cs with
  | none =>
      rw [found, Option.map_none, Option.map_eq_none_iff] at split
      rw [split]
  | some argument =>
      rw [found, Option.map_some, Option.map_eq_some_iff] at split
      obtain ⟨padded, found', same⟩ := split
      obtain ⟨sameWord, sameRest⟩ := Prod.mk.inj same
      rw [found']
      simp only [id] at sameWord
      simp only [sameWord, sameRest]

end OneLine

/-- Blanks behind a line do not make a name out of what is none. -/
theorem exists_name_of_append_blanks {line rest : List Char} {c : Char}
    (sign : fromAtSign (line ++ blanks) = '@' :: c :: rest) (start : isNameStart c = true) :
    ∃ rest', fromAtSign line = '@' :: c :: rest' := by
  have notBlank : isBlank c = false := by
    by_contra blankChar
    rw [isNameStart_eq_false_of_isBlank (by simpa using blankChar)] at start
    cases start
  rw [fromAtSign_append_blanks blank] at sign
  split at sign
  · cases sign
  · exact exists_of_append_blanks_eq blank ['@'] sign notBlank

theorem blockTag?_append_blanks {line : List Char} (oneLine : '\n' ∉ line ++ blanks) :
    blockTag? (line ++ blanks) = blockTag? line := by
  by_cases named : ∃ c rest, fromAtSign line = '@' :: c :: rest ∧ isNameStart c = true
  · obtain ⟨c, rest, sign, start⟩ := named
    have sign' : fromAtSign (line ++ blanks) = '@' :: c :: (rest ++ blanks) := by
      rw [fromAtSign_append_blanks blank, sign]
      rfl
    have offset : (line ++ blanks).length - ((rest ++ blanks).length + 2) =
        line.length - (rest.length + 2) := by
      simp only [List.length_append]
      omega
    have stops (c : Char) (h : isBlank c = true) : isWord c = false := isWord_eq_false_of_isBlank h
    rw [blockTag?_of_sign sign' start, blockTag?_of_sign sign start, offset,
      takeWhile_append_blanks blank stops, dropWhile_append_blanks blank stops]
    rcases dropClosing_append_blanks blank (rest.dropWhile isWord) with same | same
    · rw [same]
    · have inLine : '\n' ∉ dropClosing (rest.dropWhile isWord) ++ blanks := by
        simp only [List.mem_append, not_or] at oneLine ⊢
        exact ⟨newline_not_mem_tagText sign oneLine.1, oneLine.2⟩
      rw [same, blockTag_append_blanks blank inLine]
  · have unnamed {c : Char} {rest : List Char} (sign : fromAtSign line = '@' :: c :: rest) :
        isNameStart c = false := by
      by_contra start
      exact named ⟨c, rest, sign, by simpa using start⟩
    rw [blockTag?_eq_none_iff.mpr fun c rest => unnamed, blockTag?_eq_none_iff]
    intro c rest sign
    by_contra start
    obtain ⟨rest', sign'⟩ := exists_name_of_append_blanks blank sign (by simpa using start)
    exact start (unnamed sign')

/-- A line has the same tags with blanks behind it. -/
theorem ofLine_append_blanks {line : List Char} (oneLine : '\n' ∉ line ++ blanks) :
    ofLine (line ++ blanks) = ofLine line := by
  have noBrace : '\x7d' ∉ blanks := not_mem_blanks blank (by decide)
  rw [ofLine, blockTag?_append_blanks blank oneLine,
    markersFrom_append noBrace (brace_not_mem_blanks blank), ofLine]

end Blanks

end JavadocAudit.Tag

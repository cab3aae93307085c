import JavadocAudit.Proofs.Tag.Grammar
import Mathlib.Data.List.Infix

/-!
# The layout of a comment

A line of a comment is its body between a margin and an ending. The margin is made of blanks and
decoration, and the ending of blanks and perhaps the end of the comment. Where the margin ends and
where the ending starts is clear from the body: it starts with none of the characters of a margin,
and no star at its end can be taken for part of the ending.

The body decides what the tags of the line are. The margin moves them to the right. The ending is
taken away before an argument is split off and a description is trimmed, so it neither becomes an
argument nor adds to one.
-/

namespace JavadocAudit

namespace Tag

open Text

/-- Blanks, decoration and blanks. -/
def IsMargin (margin : List Char) : Prop :=
  ∃ before stars between, margin = before ++ (stars ++ between) ∧
    (∀ c ∈ before, isBlank c = true) ∧ IsDecoration stars ∧ ∀ c ∈ between, isBlank c = true

/-- Blanks, or blanks around the end of a comment. -/
def IsEnding (ending : List Char) : Prop :=
  (∀ c ∈ ending, isBlank c = true) ∨
    ∃ before count behind, ending = before ++ (List.replicate (count + 1) '*' ++ '/' :: behind) ∧
      (∀ c ∈ before, isBlank c = true) ∧ ∀ c ∈ behind, isBlank c = true

/-- A text that no margin and no ending reaches into. -/
structure IsBody (body : List Char) : Prop where
  plain : StartsPlain body
  finish : body.getLast? ≠ some '*'
  noEnd : ¬ ['*', '/'] <:+: body

def InLine.moveRight (distance : Nat) (tag : InLine) : InLine :=
  { tag with offset := tag.offset + distance }

section Ending

variable {ending text : List Char}

theorem mem_ending {c : Char} (shape : IsEnding ending) (member : c ∈ ending) :
    isBlank c = true ∨ c = '*' ∨ c = '/' := by
  obtain blank | ⟨before, count, behind, rfl, blank, blank'⟩ := shape
  · exact .inl (blank c member)
  · simp only [List.mem_append, List.mem_cons, List.mem_replicate] at member
    obtain before | star | slash | behind := member
    · exact .inl (blank c before)
    · exact .inr (.inl star.2)
    · exact .inr (.inr slash)
    · exact .inl (blank' c behind)

theorem not_mem_ending {c : Char} (shape : IsEnding ending) (notBlank : isBlank c = false)
    (noStar : c ≠ '*') (noSlash : c ≠ '/') : c ∉ ending := by
  intro member
  obtain blank | star | slash := mem_ending shape member
  · rw [blank] at notBlank
    cases notBlank
  · exact noStar star
  · exact noSlash slash

/-- An ending stops every word. -/
theorem head?_ending_any {test : Char → Bool} (shape : IsEnding ending)
    (blanks : ∀ c, isBlank c = true → test c = false) (star : test '*' = false)
    (slash : test '/' = false) : ending.head?.any test = false := by
  cases ending with
  | nil => rfl
  | cons c rest =>
      obtain blank | rfl | rfl := mem_ending shape List.mem_cons_self
      · exact blanks c blank
      · exact star
      · exact slash

/-- The end of a comment is dropped with all the blanks around it. -/
theorem dropClosing_append_end {before behind : List Char} (blank : ∀ c ∈ before, isBlank c = true)
    (blank' : ∀ c ∈ behind, isBlank c = true) (finish : text.getLast? ≠ some '*') (count : Nat) :
    dropClosing (text ++ (before ++ (List.replicate (count + 1) '*' ++ '/' :: behind))) =
      trimEnd text := by
  have reversed {cs : List Char} (blank : ∀ c ∈ cs, isBlank c = true) :
      ∀ c ∈ cs.reverse, isBlank c = true :=
    fun c member => blank c (List.mem_reverse.mp member)
  have reading : (text ++ (before ++ (List.replicate (count + 1) '*' ++ '/' :: behind))).reverse =
      behind.reverse ++
        '/' :: '*' :: (List.replicate count '*' ++ (before.reverse ++ text.reverse)) := by
    rw [List.reverse_append, List.reverse_append, List.reverse_append, List.reverse_cons,
      List.reverse_replicate, List.replicate_succ]
    simp only [List.append_assoc, List.cons_append, List.nil_append]
  have noStar : (before.reverse ++ text.reverse).head? ≠ some '*' := by
    apply head?_blanks_append (reversed blank) (by decide)
    rwa [List.head?_reverse]
  have slash (cs : List Char) : ('/' :: cs).dropWhile isBlank = '/' :: cs :=
    List.dropWhile_cons_of_neg (by decide)
  rw [dropClosing, reading, List.dropWhile_append_of_pos (reversed blank'), slash]
  show (List.dropWhile isBlank (List.dropWhile (· = '*') _)).reverse = _
  rw [dropWhile_star_append noStar, List.dropWhile_append_of_pos (reversed blank), trimEnd]

/-- A block tag with an ending behind its text says what it says without. -/
theorem blockTag_dropClosing_append (shape : IsEnding ending) (finish : text.getLast? ≠ some '*')
    (noEnd : ¬ ['*', '/'] <:+: text) (oneLine : '\n' ∉ text ++ ending) (offset : Nat)
    (name : List Char) :
    blockTag offset name (dropClosing (text ++ ending)) =
      blockTag offset name (dropClosing text) := by
  rw [dropClosing_eq_self noEnd]
  obtain blank | ⟨before, count, behind, rfl, blank, blank'⟩ := shape
  · obtain same | same := dropClosing_append_blanks blank text
    · rw [same, dropClosing_eq_self noEnd]
    · rw [same, dropClosing_eq_self noEnd, blockTag_append_blanks blank oneLine]
  · rw [dropClosing_append_end blank blank' finish]
    -- The blanks that are dropped before the end of the comment do not count either.
    obtain ⟨blanks, split, trimmed⟩ := exists_trimEnd_append_blanks text
    have inText : '\n' ∉ trimEnd text ++ blanks := by
      rw [← split]
      exact fun feed => oneLine (List.mem_append_left _ feed)
    have padded := blockTag_append_blanks trimmed inText offset name
    rwa [← split, eq_comm] at padded

end Ending

theorem blockTag_moveRight (offset distance : Nat) (name text : List Char) :
    (blockTag offset name text).moveRight distance = blockTag (offset + distance) name text := by
  simp only [blockTag]
  split
  · split <;> rfl
  · rfl

theorem markersFrom_moveRight (offset distance : Nat) (cs : List Char) :
    (markersFrom offset cs).map (InLine.moveRight distance) =
      markersFrom (offset + distance) cs := by
  rw [markersFrom_eq_map, markersFrom_eq_map, List.map_map]
  apply List.map_congr_left
  intro start _
  simp only [Function.comp_apply, InLine.moveRight, InLine.mk.injEq, and_true]
  omega

section Layout

variable {margin body ending : List Char}

theorem not_mem_margin {c : Char} (shape : IsMargin margin) (notBlank : isBlank c = false)
    (noStar : c ≠ '*') (noSlash : c ≠ '/') : c ∉ margin := by
  obtain ⟨before, stars, between, rfl, blank, decoration, blank'⟩ := shape
  have noDecoration : c ∉ stars := by
    obtain ⟨count, rfl⟩ | ⟨count, rfl⟩ := decoration <;> simp [noStar, noSlash]
  simp [not_mem_blanks blank notBlank, noDecoration, not_mem_blanks blank' notBlank]

theorem isMargin_nil : IsMargin [] := ⟨[], [], [], rfl, by simp, .inl ⟨0, rfl⟩, by simp⟩

/-- A line is read from its body on. -/
theorem fromAtSign_margin_append {tail : List Char} (left : IsMargin margin)
    (plain : StartsPlain tail) : fromAtSign (margin ++ tail) = tail := by
  obtain ⟨before, stars, between, rfl, blank, decoration, blank'⟩ := left
  have read := fromAtSign_layout blank decoration blank' plain
  simpa only [List.append_assoc] using read

/-- A line without an at sign in its body has no block tag. -/
theorem blockTag?_layout_nil (left : IsMargin margin) (right : IsEnding ending) :
    blockTag? (margin ++ ending) = none := by
  rw [Option.eq_none_iff_forall_ne_some]
  intro tag found
  obtain ⟨front, back, split, -⟩ := exists_of_blockTag?_eq_some found
  have sign : '@' ∈ margin ++ ending := by rw [split]; simp
  obtain inMargin | inEnding := List.mem_append.mp sign
  · exact not_mem_margin left (by decide) (by decide) (by decide) inMargin
  · exact not_mem_ending right (by decide) (by decide) (by decide) inEnding

/-- A name in the body is no longer and no shorter for the ending, and neither is its text. -/
theorem blockTag?_layout_of_name {c : Char} {rest : List Char} (left : IsMargin margin)
    (inner : IsBody ('@' :: c :: rest)) (right : IsEnding ending)
    (oneLine : '\n' ∉ ('@' :: c :: rest) ++ ending) (start : isNameStart c = true) :
    blockTag? (margin ++ ('@' :: c :: rest ++ ending)) =
      (blockTag? ('@' :: c :: rest)).map (InLine.moveRight margin.length) := by
  have sign : fromAtSign (margin ++ ('@' :: c :: rest ++ ending)) = '@' :: c :: (rest ++ ending) :=
    fromAtSign_margin_append left (startsPlain_sign _)
  have sign' : fromAtSign ('@' :: c :: rest) = '@' :: c :: rest :=
    fromAtSign_margin_append isMargin_nil (startsPlain_sign _)
  have stop : ending.head?.any isWord = false :=
    head?_ending_any right (fun _ => isWord_eq_false_of_isBlank) (by decide +kernel)
      (by decide +kernel)
  have inBody : rest.dropWhile isWord <:+ '@' :: c :: rest :=
    (List.dropWhile_suffix _).trans ((List.suffix_cons c rest).trans (List.suffix_cons '@' _))
  have finish : (rest.dropWhile isWord).getLast? ≠ some '*' := by
    intro star
    obtain ⟨front, split⟩ := inBody
    apply inner.finish
    rw [← split, List.getLast?_append, star]
    rfl
  have noEnd : ¬ ['*', '/'] <:+: rest.dropWhile isWord :=
    fun found => inner.noEnd (found.trans inBody.isInfix)
  have inLine : '\n' ∉ rest.dropWhile isWord ++ ending := by
    rw [List.mem_append, not_or] at oneLine ⊢
    exact ⟨fun feed => oneLine.1 (inBody.subset feed), oneLine.2⟩
  have offset : (margin ++ ('@' :: c :: rest ++ ending)).length - ((rest ++ ending).length + 2) =
      ('@' :: c :: rest).length - (rest.length + 2) + margin.length := by
    simp only [List.length_append, List.length_cons]
    omega
  rw [blockTag?_of_sign sign start, blockTag?_of_sign sign' start, Option.map_some,
    blockTag_moveRight, offset, takeWhile_append_of_stop stop, dropWhile_append_of_stop stop,
    blockTag_dropClosing_append right finish noEnd inLine]

variable (left : IsMargin margin) (inner : IsBody body) (right : IsEnding ending)
  (oneLine : '\n' ∉ body ++ ending)
include left inner right oneLine

theorem blockTag?_layout :
    blockTag? (margin ++ (body ++ ending)) =
      (blockTag? body).map (InLine.moveRight margin.length) := by
  by_cases named : ∃ c rest, body = '@' :: c :: rest ∧ isNameStart c = true
  · obtain ⟨c, rest, rfl, start⟩ := named
    exact blockTag?_layout_of_name left inner right oneLine start
  · have bare : blockTag? body = none := by
      rw [blockTag?_eq_none_iff]
      intro c rest sign
      by_contra start
      have read : fromAtSign body = body := fromAtSign_margin_append isMargin_nil inner.plain
      exact named ⟨c, rest, read ▸ sign, by simpa using start⟩
    rw [bare, Option.map_none]
    cases body with
    | nil => exact blockTag?_layout_nil left right
    | cons d more =>
        have plain : StartsPlain (d :: more ++ ending) :=
          ⟨inner.plain.notBlank, inner.plain.noStar, inner.plain.noSlash⟩
        rw [blockTag?_eq_none_iff, fromAtSign_margin_append left plain]
        intro c rest sign
        obtain ⟨rfl, behind⟩ := List.cons.inj sign
        cases more with
        | cons e others =>
            obtain ⟨rfl, -⟩ := List.cons.inj behind
            by_contra start
            exact named ⟨_, _, rfl, by simpa using start⟩
        | nil =>
            -- Only the ending follows the at sign, and no name starts with it.
            have stop : ending.head?.any isNameStart = false :=
              head?_ending_any right (fun _ => isNameStart_eq_false_of_isBlank) (by decide)
                (by decide)
            obtain rfl : ending = c :: rest := behind
            exact stop

/-- A line has the tags of its body, further to the right by the length of the margin. -/
theorem ofLine_layout :
    ofLine (margin ++ (body ++ ending)) =
      (ofLine body).map (InLine.moveRight margin.length) := by
  have noOpening : '\x7b' ∉ margin := not_mem_margin left (by decide) (by decide) (by decide)
  have noOpening' : '\x7b' ∉ ending := not_mem_ending right (by decide) (by decide) (by decide)
  have noClosing : '\x7d' ∉ ending := not_mem_ending right (by decide) (by decide) (by decide)
  have block : (blockTag? (margin ++ (body ++ ending))).toList =
      (blockTag? body).toList.map (InLine.moveRight margin.length) := by
    rw [blockTag?_layout left inner right oneLine]
    cases blockTag? body <;> rfl
  rw [ofLine, ofLine, List.map_append, block, markersFrom_moveRight,
    markersFrom_append_of_no_brace noOpening, markersFrom_append noClosing noOpening']

end Layout

def moveRight (distance : Nat) (tag : Tag) : Tag :=
  { tag with position := { tag.position with column := tag.position.column + distance } }

theorem place_moveRight (comment : Comment) (row distance : Nat) (tag : InLine) :
    (tag.moveRight distance).place comment row = (tag.place comment row).moveRight distance := by
  have position : comment.position row (tag.offset + distance) =
      ⟨(comment.position row tag.offset).line,
        (comment.position row tag.offset).column + distance⟩ := by
    simp only [Comment.position]
    split
    · simp [Int.add_assoc]
    · simp only [Int.natCast_add, Position.mk.injEq, true_and]
      omega
  simp only [InLine.place, InLine.moveRight, moveRight, position]

end Tag

namespace Comment

open Tag

/-- The tags of some lines, the first of which has the given index in its comment. -/
def tagsOfLines (start : Position) (first : Nat) (lines : List String) : List Tag :=
  (lines.zipIdx first).flatMap fun entry =>
    (ofLine entry.1.toList).map (·.place ⟨[], start⟩ entry.2)

theorem tags_append_cons (start : Position) (above below : List String) (line : String) :
    tags ⟨above ++ line :: below, start⟩ =
      tagsOfLines start 0 above ++ ((ofLine line.toList).map (·.place ⟨[], start⟩ above.length) ++
        tagsOfLines start (above.length + 1) below) := by
  simp only [tags, tagsOfLines, List.zipIdx_append, List.zipIdx_cons, List.flatMap_append,
    List.flatMap_cons, Nat.zero_add]
  rfl

/-- Moving the tags of one line leaves those of other lines where they are. -/
theorem map_moveRight_tagsOfLines (start : Position) {row first : Nat} {lines : List String}
    (apart : first + lines.length ≤ row ∨ row < first) (distance : Nat) :
    (tagsOfLines start first lines).map (fun tag =>
      if tag.position.line = start.line + row then tag.moveRight distance else tag) =
        tagsOfLines start first lines := by
  refine (List.map_congr_left fun tag member => ?_).trans (List.map_id _)
  obtain ⟨entry, inLines, found⟩ := List.mem_flatMap.mp member
  obtain ⟨inLine, -, rfl⟩ := List.mem_map.mp found
  have line : (inLine.place ⟨[], start⟩ entry.2).position.line = start.line + entry.2 :=
    position_line ⟨[], start⟩ entry.2 inLine.offset
  have bounds := List.mem_zipIdx inLines
  apply if_neg
  rw [line]
  omega

/-- Margin and ending of a line do not change its tags: they are those of the body alone, with the
same names, arguments and descriptions, to the right by the length of the margin. The tags of all
other lines stay the same. -/
theorem tags_do_not_depend_on_layout {margin body ending : List Char} (left : IsMargin margin)
    (inner : IsBody body) (right : IsEnding ending) (oneLine : '\n' ∉ body ++ ending)
    (start : Position) (above below : List String) :
    tags ⟨above ++ String.ofList (margin ++ (body ++ ending)) :: below, start⟩ =
      (tags ⟨above ++ String.ofList body :: below, start⟩).map fun tag =>
        if tag.position.line = start.line + above.length then tag.moveRight margin.length
        else tag := by
  have here : (ofLine (margin ++ (body ++ ending))).map (·.place ⟨[], start⟩ above.length) =
      ((ofLine body).map (·.place ⟨[], start⟩ above.length)).map fun tag =>
        if tag.position.line = start.line + above.length then tag.moveRight margin.length
        else tag := by
    rw [ofLine_layout left inner right oneLine, List.map_map, List.map_map]
    apply List.map_congr_left
    intro tag _
    have line : (tag.place ⟨[], start⟩ above.length).position.line = start.line + above.length :=
      position_line ⟨[], start⟩ above.length tag.offset
    rw [Function.comp_apply, Function.comp_apply, if_pos line, place_moveRight]
  rw [tags_append_cons, tags_append_cons, String.toList_ofList, String.toList_ofList,
    List.map_append, List.map_append, map_moveRight_tagsOfLines start (by omega),
    map_moveRight_tagsOfLines start (by omega), here]

/-- A body with stars and slashes next to its argument, in its description and at its end. -/
def starryBody : List Char := "@param x* a * /b \x7b@inheritDoc\x7d /".toList

theorem starryBody_in_layout :
    IsMargin "\t/*** ".toList ∧ IsBody starryBody ∧ IsEnding "**/ ".toList ∧
      tags ⟨["/**", String.ofList ("\t/*** ".toList ++ (starryBody ++ "**/ ".toList)), "*/"],
          ⟨7, 5⟩⟩ =
        [⟨.param, "param", ⟨8, 7⟩, some "x*", "a * /b \x7b@inheritDoc\x7d /"⟩,
          ⟨.inheritDoc, "inheritDoc", ⟨8, 25⟩, none, ""⟩] := by
  have left : IsMargin "\t/*** ".toList :=
    ⟨['\t'], "/***".toList, [' '], rfl, List.all_eq_true.mp (by decide), .inr ⟨1, rfl⟩,
      List.all_eq_true.mp (by decide)⟩
  have inner : IsBody starryBody := ⟨startsPlain_sign _, by decide, by decide⟩
  have right : IsEnding "**/ ".toList :=
    .inr ⟨[], 1, [' '], rfl, by simp, List.all_eq_true.mp (by decide)⟩
  have moved := tags_do_not_depend_on_layout left inner right (by decide) ⟨7, 5⟩ ["/**"] ["*/"]
  refine ⟨left, inner, right, moved.trans ?_⟩
  decide +kernel

end Comment

end JavadocAudit

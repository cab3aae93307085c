import JavadocAudit.Proofs.Tag.Padding
import JavadocAudit.Proofs.Text.Line
import Mathlib.Data.List.Infix
import Mathlib.Tactic.MkIffOfInductiveProp

/-!
# Writing tags

A comment can be written from a list of entries, one to a line, each a block tag or a marker for
inherited text. What an entry says is read back if its name is a name, its argument a word and its
description free of blanks at its ends, and if nothing in the line ends the comment or marks
inherited text. At signs, stars, slashes, braces and blanks of any kind do no harm otherwise.
-/

namespace JavadocAudit

open Text

/-- What a line of a comment says. -/
inductive Entry where
  | param (name description : String)
  | result (description : String)
  | throws (type description : String)
  /-- A tag for an exception under its other name. -/
  | exception (type description : String)
  /-- A block tag with a name of its own. -/
  | other (name description : String)
  | inheritDoc
  deriving DecidableEq, Repr

namespace Entry

def kind : Entry → Tag.Kind
  | param _ _ => .param
  | result _ => .result
  | throws _ _ | exception _ _ => .throws
  | other _ _ => .other
  | inheritDoc => .inheritDoc

def name : Entry → String
  | param _ _ => "param"
  | result _ => "return"
  | throws _ _ => "throws"
  | exception _ _ => "exception"
  | other name _ => name
  | inheritDoc => "inheritDoc"

def argument : Entry → Option String
  | param argument _ | throws argument _ | exception argument _ => some argument
  | _ => none

def description : Entry → String
  | param _ text | result text | throws _ text | exception _ text | other _ text => text
  | inheritDoc => ""

/-- The at sign of a marker stands behind a brace. -/
def column : Entry → Nat
  | inheritDoc => 5
  | _ => 4

def blockLine (name : String) (argument : Option String) (description : String) : String :=
  " * @" ++ name ++ argument.elim "" (" " ++ ·) ++ " " ++ description

def line : Entry → String
  | inheritDoc => " * \x7b@inheritDoc\x7d"
  | entry => blockLine entry.name entry.argument entry.description

def tag (entry : Entry) (position : Position) : Tag :=
  ⟨entry.kind, entry.name, position, entry.argument, entry.description⟩

def inLine (entry : Entry) : Tag.InLine :=
  ⟨entry.column - 1, entry.kind, entry.name, entry.argument, entry.description⟩

/-- The text of the comment with the given entries. -/
def write (entries : List Entry) : String :=
  String.ofList (joinLines ("/**".toList :: entries.map (·.line.toList) ++ [" */".toList]))

/-- An entry that can be told from its line. -/
@[mk_iff]
structure Writable (entry : Entry) : Prop where
  nameStart : entry.name.toList.head?.any Tag.isNameStart = true
  nameWord : entry.name.toList.tail.all isWord = true
  ownName : entry.kind = .other → entry.name ∉ ["param", "return", "throws", "exception"]
  argumentWord : ∀ argument ∈ entry.argument,
    argument.toList ≠ [] ∧ argument.toList.any isBlank = false
  descriptionOneLine : '\n' ∉ entry.description.toList
  descriptionStart : entry.description.toList.head?.any isBlank = false
  descriptionEnd : entry.description.toList.getLast?.any isBlank = false
  notClosing : entry ≠ inheritDoc → ¬['*', '/'] <:+: entry.line.toList
  notMarker : entry ≠ inheritDoc → ¬Tag.HasMarker entry.line.toList

instance : DecidablePred Writable :=
  fun entry => decidable_of_iff _ (writable_iff entry).symm

end Entry

namespace Tag

theorem newline_not_mem_of_word {cs : List Char} (word : cs.any isBlank = false) : '\n' ∉ cs := by
  intro feed
  have blank := List.any_eq_false.mp word '\n' feed
  exact blank isBlank_newline

/-- The first word behind a name is read as an argument, up to the blank that follows it. -/
theorem splitArgument?_written {argument rest : List Char} (nonempty : argument ≠ [])
    (word : argument.any isBlank = false) (oneLine : '\n' ∉ rest)
    (start : rest.head?.any isBlank = false) :
    splitArgument? (' ' :: (argument ++ ' ' :: rest)) = some (argument, rest) := by
  have inLine : '\n' ∉ ' ' :: (argument ++ ' ' :: rest) := by
    simp [newline_not_mem_of_word word, oneLine]
  have argumentFirst : (argument ++ ' ' :: rest).head?.any isBlank = false := by
    obtain ⟨c, more, rfl⟩ := List.exists_cons_of_ne_nil nonempty
    exact (Bool.or_eq_false_iff.mp word).1
  have trimmed : trimStart (' ' :: (argument ++ ' ' :: rest)) = argument ++ ' ' :: rest :=
    trimStart_eq_self argumentFirst
  have trimmedRest : trimStart (' ' :: rest) = rest := trimStart_eq_self start
  have blankFree : ∀ c ∈ argument, (!isBlank c) = true := by simpa using word
  have before : (argument ++ ' ' :: rest).takeWhile (!isBlank ·) = argument :=
    (List.takeWhile_append_of_pos blankFree).trans (List.append_nil argument)
  have behind : (argument ++ ' ' :: rest).dropWhile (!isBlank ·) = ' ' :: rest :=
    List.dropWhile_append_of_pos blankFree
  rw [splitArgument?_of_oneLine inLine, trimmed, before, behind, trimmedRest]
  simp

/-- What stands behind the name of a block tag. -/
def tagText (argument : Option String) (description : String) : List Char :=
  argument.elim [] (' ' :: ·.toList) ++ ' ' :: description.toList

theorem toList_blockLine (name : String) (argument : Option String) (description : String) :
    (Entry.blockLine name argument description).toList =
      ' ' :: '*' :: ' ' :: '@' :: (name.toList ++ tagText argument description) := by
  cases argument <;> simp [Entry.blockLine, tagText]

theorem exists_tagText_eq_cons (argument : Option String) (description : String) :
    ∃ rest, tagText argument description = ' ' :: rest := by
  cases argument with
  | none => exact ⟨_, rfl⟩
  | some argument => exact ⟨_, rfl⟩

/-- The name of a block tag ends at the space behind it. -/
theorem blockTag?_written {c : Char} {rest : List Char} (start : isNameStart c = true)
    (word : ∀ c ∈ rest, isWord c = true) (more : List Char) :
    blockTag? (' ' :: '*' :: ' ' :: '@' :: c :: (rest ++ ' ' :: more)) =
      some (blockTag 3 (c :: rest) (dropClosing (' ' :: more))) := by
  have sign : fromAtSign (' ' :: '*' :: ' ' :: '@' :: c :: (rest ++ ' ' :: more)) =
      '@' :: c :: (rest ++ ' ' :: more) := rfl
  have before : (rest ++ ' ' :: more).takeWhile isWord = rest :=
    (List.takeWhile_append_of_pos word).trans (List.append_nil rest)
  have behind : (rest ++ ' ' :: more).dropWhile isWord = ' ' :: more :=
    List.dropWhile_append_of_pos word
  rw [blockTag?_of_sign sign start, before, behind]
  simp only [List.length_cons]
  congr 2
  omega

theorem blockTag_written {name description : String} {argument : Option String}
    (takes : (Kind.ofName name).takesArgument = argument.isSome)
    (word : ∀ word ∈ argument, word.toList ≠ [] ∧ word.toList.any isBlank = false)
    (oneLine : '\n' ∉ description.toList)
    (start : description.toList.head?.any isBlank = false)
    (finish : description.toList.getLast?.any isBlank = false) (offset : Nat) :
    blockTag offset name.toList (tagText argument description) =
      ⟨offset, Kind.ofName name, name, argument, description⟩ := by
  have trimmed : trim description.toList = description.toList := trim_eq_self start finish
  unfold blockTag
  rw [String.ofList_toList]
  cases argument with
  | none =>
      have spaced : trim (tagText none description) = description.toList := trimmed
      simp only [takes, Option.isSome_none, Bool.false_eq_true, if_false, spaced,
        String.ofList_toList]
  | some argument =>
      obtain ⟨nonempty, blankFree⟩ := word argument rfl
      have split : splitArgument? (tagText (some argument) description) =
          some (argument.toList, description.toList) :=
        splitArgument?_written nonempty blankFree oneLine start
      simp only [takes, Option.isSome_some, if_true, split, trimmed, String.ofList_toList]

end Tag

namespace Entry

open Tag

variable {entry : Entry}

theorem line_eq_blockLine (block : entry ≠ inheritDoc) :
    entry.line = blockLine entry.name entry.argument entry.description := by
  cases entry with
  | inheritDoc => exact absurd rfl block
  | _ => rfl

theorem takesArgument_kind (entry : Entry) :
    entry.kind.takesArgument = entry.argument.isSome := by
  cases entry <;> rfl

/-- A block tag has the kind of its name. -/
theorem Writable.ofName_name (h : entry.Writable) (block : entry ≠ inheritDoc) :
    Kind.ofName entry.name = entry.kind := by
  cases entry with
  | other name description =>
      have own := h.ownName rfl
      simp only [Entry.name, List.mem_cons, List.not_mem_nil, or_false, not_or] at own
      obtain ⟨notParam, notReturn, notThrows, notException⟩ := own
      simp only [Entry.name, Kind.ofName, Entry.kind]
  | inheritDoc => exact absurd rfl block
  | _ => rfl

theorem Writable.exists_name (h : entry.Writable) :
    ∃ c rest, entry.name.toList = c :: rest ∧ isNameStart c = true ∧
      ∀ c ∈ rest, isWord c = true := by
  have start := h.nameStart
  have word := h.nameWord
  cases name : entry.name.toList with
  | nil =>
      rw [name] at start
      cases start
  | cons c rest =>
      rw [name] at start word
      exact ⟨c, rest, rfl, start, List.all_eq_true.mp word⟩

theorem Writable.blockTag?_line (h : entry.Writable) (block : entry ≠ inheritDoc) :
    blockTag? entry.line.toList = some entry.inLine := by
  obtain ⟨c, rest, name, start, word⟩ := h.exists_name
  obtain ⟨more, text⟩ := exists_tagText_eq_cons entry.argument entry.description
  have line : entry.line.toList =
      ' ' :: '*' :: ' ' :: '@' :: c :: (rest ++ tagText entry.argument entry.description) := by
    rw [line_eq_blockLine block, toList_blockLine, name]
    rfl
  have notClosed : dropClosing (tagText entry.argument entry.description) =
      tagText entry.argument entry.description := by
    refine dropClosing_eq_self fun closing => h.notClosing block ?_
    rw [line]
    exact closing.trans ⟨' ' :: '*' :: ' ' :: '@' :: c :: rest, [], by simp⟩
  have takes : (Kind.ofName entry.name).takesArgument = entry.argument.isSome := by
    rw [h.ofName_name block, takesArgument_kind]
  have column : entry.column = 4 := by
    cases entry with
    | inheritDoc => exact absurd rfl block
    | _ => rfl
  calc blockTag? entry.line.toList
    _ = some (blockTag 3 (c :: rest)
          (dropClosing (tagText entry.argument entry.description))) := by
        rw [line, text]
        exact blockTag?_written start word more
    _ = some ⟨3, Kind.ofName entry.name, entry.name, entry.argument, entry.description⟩ := by
        rw [notClosed, ← name, blockTag_written takes h.argumentWord h.descriptionOneLine
          h.descriptionStart h.descriptionEnd]
    _ = some entry.inLine := by rw [h.ofName_name block, inLine, column]

/-- An entry is read back from its line. -/
theorem Writable.ofLine_line (h : entry.Writable) :
    ofLine entry.line.toList = [entry.inLine] := by
  by_cases block : entry = inheritDoc
  · subst block
    decide +kernel
  · rw [ofLine, h.blockTag?_line block, (markersFrom_eq_nil_iff 0).mpr (h.notMarker block)]
    rfl

theorem Writable.newline_not_mem_line (h : entry.Writable) : '\n' ∉ entry.line.toList := by
  by_cases block : entry = inheritDoc
  · subst block
    decide
  · obtain ⟨c, rest, name, start, word⟩ := h.exists_name
    have inName : '\n' ∉ entry.name.toList := by
      rw [name, List.mem_cons, not_or]
      refine ⟨?_, fun feed => absurd (word _ feed) (by decide)⟩
      rintro rfl
      cases start
    have inArgument : '\n' ∉ entry.argument.elim [] (' ' :: ·.toList) := by
      have word := h.argumentWord
      cases argument : entry.argument with
      | none => simp
      | some text =>
          simpa using newline_not_mem_of_word (word text argument).2
    rw [line_eq_blockLine block, toList_blockLine]
    simp [tagText, inName, inArgument, h.descriptionOneLine]

theorem lines_write {entries : List Entry} (writable : ∀ entry ∈ entries, entry.Writable)
    (start : Position) :
    (Comment.ofText (write entries) start).lines =
      "/**" :: entries.map line ++ [" */"] := by
  have oneLine : ∀ line ∈ "/**".toList :: entries.map (·.line.toList) ++ [" */".toList],
      '\n' ∉ line := by
    simp only [List.cons_append, List.mem_cons, List.mem_append, List.mem_map, List.not_mem_nil,
      or_false]
    rintro line (rfl | ⟨entry, member, rfl⟩ | rfl)
    · decide
    · exact (writable entry member).newline_not_mem_line
    · decide
  rw [Comment.ofText, write, String.toList_ofList, splitLines_joinLines (by simp) oneLine]
  simp

theorem place_inLine (entry : Entry) (comment : Comment) (i : Nat) :
    entry.inLine.place comment (i + 1) =
      entry.tag ⟨comment.start.line + (i + 1), entry.column⟩ := by
  cases entry <;> rfl

/-- The first line and the last line have no tags, and every other line has its entry. -/
theorem map_ofLine_lines_write {entries : List Entry}
    (writable : ∀ entry ∈ entries, entry.Writable) (start : Position) :
    (Comment.ofText (write entries) start).lines.map (fun line => ofLine line.toList) =
      [] :: entries.map (fun entry => [entry.inLine]) ++ [[]] := by
  have opening : ofLine "/**".toList = [] := by decide +kernel
  have closing : ofLine " */".toList = [] := by decide +kernel
  have between : entries.map (fun entry => ofLine entry.line.toList) =
      entries.map fun entry => [entry.inLine] :=
    List.map_congr_left fun entry member => (writable entry member).ofLine_line
  rw [lines_write writable, List.map_append, List.map_cons, List.map_map, opening]
  simp only [List.map_singleton, closing]
  exact congrArg ([] :: · ++ [[]]) between

/-- The tags of a comment that is written from entries are the entries, in order, one to a line
behind the first. -/
theorem tags_write {entries : List Entry} (writable : ∀ entry ∈ entries, entry.Writable)
    (start : Position) :
    (Comment.ofText (write entries) start).tags =
      entries.mapIdx fun i entry => entry.tag ⟨start.line + (i + 1), entry.column⟩ :=
  calc (Comment.ofText (write entries) start).tags
    _ = ([] :: entries.map (fun entry => [entry.inLine]) ++ [[]] :
            List (List InLine)).zipIdx.flatMap
          fun row => row.1.map (·.place ⟨[], start⟩ row.2) := by
        rw [Comment.tags_eq_flatMap, map_ofLine_lines_write writable]
        rfl
    _ = entries.zipIdx.flatMap fun row => [row.1.inLine.place ⟨[], start⟩ (row.2 + 1)] := by
        -- The opening line adds no tag, but it counts as a line.
        simp [List.zipIdx_succ, List.zipIdx_append, List.zipIdx_map, List.flatMap_map]
    _ = entries.zipIdx.map fun row => row.1.tag ⟨start.line + (row.2 + 1), row.1.column⟩ := by
        rw [List.map_eq_flatMap]
        simp only [place_inLine]
    _ = entries.mapIdx fun i entry => entry.tag ⟨start.line + (i + 1), entry.column⟩ := by
        rw [List.mapIdx_eq_zipIdx_map]

/-- Entries with signs, stars, braces and blanks that could be taken for something else. -/
def oddEntries : List Entry :=
  [.param "<T>" "* the @type / of \x7b @inheritDoc",
    .result "",
    .exception "@E*" "see\t\x7b@link a.B\x7d **",
    .inheritDoc,
    .other "Xé_1" "@param x"]

theorem tags_write_oddEntries :
    (∀ entry ∈ oddEntries, entry.Writable) ∧
      write oddEntries = "/**\n * @param <T> * the @type / of \x7b @inheritDoc\n * @return \n" ++
        " * @exception @E* see\t\x7b@link a.B\x7d **\n * \x7b@inheritDoc\x7d\n" ++
        " * @Xé_1 @param x\n */" ∧
      (Comment.ofText (write oddEntries) ⟨7, 5⟩).tags =
        [⟨.param, "param", ⟨8, 4⟩, some "<T>", "* the @type / of \x7b @inheritDoc"⟩,
          ⟨.result, "return", ⟨9, 4⟩, none, ""⟩,
          ⟨.throws, "exception", ⟨10, 4⟩, some "@E*", "see\t\x7b@link a.B\x7d **"⟩,
          ⟨.inheritDoc, "inheritDoc", ⟨11, 5⟩, none, ""⟩,
          ⟨.other, "Xé_1", ⟨12, 4⟩, none, "@param x"⟩] := by
  have writable : ∀ entry ∈ oddEntries, entry.Writable := by decide +kernel
  exact ⟨writable, by decide +kernel, tags_write writable ⟨7, 5⟩⟩

end Entry

end JavadocAudit

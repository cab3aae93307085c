import JavadocAudit.Proofs.Tag.Padding

/-!
# The grammar of tags

A line has a block tag exactly if it can be cut into blanks, decoration, blanks, an at sign and a
name that is a whole word. There is only one way to cut it: what follows the decoration is a blank
or the at sign, so decoration cannot be shortened, and nothing of a closing mark is decoration. The
markers for inherited text of a line are its occurrences of the text of a marker, wherever they
stand and however many they are.

The tags of a comment that stand in one of its lines are therefore those of the grammar, and there
are no others.
-/

namespace JavadocAudit

namespace Tag

open Text

section Block

/-- The name of a block tag: a letter and the characters of words behind it. -/
def IsName (name : List Char) : Prop :=
  ∃ first more, name = first :: more ∧ isNameStart first = true ∧ ∀ c ∈ more, isWord c = true

/-- The line is blanks, decoration, blanks, an at sign and a name, which ends where its word ends.
The at sign has the given offset. -/
def HasBlockTag (line : List Char) (offset : Nat) (name : List Char) : Prop :=
  ∃ before stars between behind,
    line = before ++ (stars ++ (between ++ '@' :: (name ++ behind))) ∧
      (∀ c ∈ before, isBlank c = true) ∧ IsDecoration stars ∧ (∀ c ∈ between, isBlank c = true) ∧
      IsName name ∧ behind.head?.any isWord = false ∧
      offset = before.length + stars.length + between.length

/-- A run of stars is dropped as a whole. -/
theorem dropWhile_star_append {tail : List Char} (noStar : tail.head? ≠ some '*') (count : Nat) :
    (List.replicate count '*' ++ tail).dropWhile (· = '*') = tail := by
  rw [List.dropWhile_append_of_pos (by simp)]
  cases tail with
  | nil => rfl
  | cons c rest => exact List.dropWhile_cons_of_neg (by simpa using noStar)

/-- Decoration is dropped as a whole if neither a star nor a slash follows it. -/
theorem dropDecoration_append {stars tail : List Char} (decoration : IsDecoration stars)
    (noStar : tail.head? ≠ some '*') (noSlash : tail.head? ≠ some '/') :
    dropDecoration (stars ++ tail) = tail := by
  rcases decoration with ⟨count, rfl⟩ | ⟨count, rfl⟩
  · cases count with
    | zero =>
        rw [List.replicate_zero, List.nil_append]
        fun_cases dropDecoration tail with
        | case1 rest => exact absurd rfl noSlash
        | case2 rest => exact absurd rfl noStar
        | case3 => rfl
    | succ count => exact dropWhile_star_append noStar count
  · exact dropWhile_star_append noStar count

/-- No decoration is dropped as a blank. -/
theorem trimStart_decoration_append {stars : List Char} (decoration : IsDecoration stars)
    (nonempty : stars ≠ []) (tail : List Char) : trimStart (stars ++ tail) = stars ++ tail := by
  rcases decoration with ⟨count, rfl⟩ | ⟨count, rfl⟩
  · cases count with
    | zero => exact absurd rfl nonempty
    | succ count => exact trimStart_cons_of_not_blank (by decide) _
  · exact trimStart_cons_of_not_blank (by decide) _

/-- With blanks before it, a text does not start with another character than before that is no
blank. -/
theorem head?_blanks_append {blanks tail : List Char} (blank : ∀ c ∈ blanks, isBlank c = true)
    {c : Char} (notBlank : isBlank c = false) (other : tail.head? ≠ some c) :
    (blanks ++ tail).head? ≠ some c := by
  cases blanks with
  | nil => exact other
  | cons first rest =>
      intro same
      obtain rfl : first = c := by simpa using same
      exact not_mem_blanks blank notBlank List.mem_cons_self

/-- The text starts with no blank and with nothing that could be decoration. -/
structure StartsPlain (cs : List Char) : Prop where
  notBlank : cs.head?.any isBlank = false
  noStar : cs.head? ≠ some '*'
  noSlash : cs.head? ≠ some '/'

theorem startsPlain_sign (tail : List Char) : StartsPlain ('@' :: tail) where
  notBlank := by rw [List.head?_cons]; decide
  noStar := by simp
  noSlash := by simp

/-- However a line is cut into blanks, decoration, blanks and a rest that starts with none of these,
it is read from that rest on. -/
theorem fromAtSign_layout {before stars between tail : List Char}
    (blank : ∀ c ∈ before, isBlank c = true) (decoration : IsDecoration stars)
    (blank' : ∀ c ∈ between, isBlank c = true) (plain : StartsPlain tail) :
    fromAtSign (before ++ (stars ++ (between ++ tail))) = tail := by
  have trimmed : trimStart tail = tail := trimStart_eq_self plain.notBlank
  rw [fromAtSign, trimStart_blanks_append blank]
  by_cases none : stars = []
  · -- Without decoration all blanks go in the first step.
    have bare : dropDecoration tail = tail :=
      dropDecoration_append (.inl ⟨0, rfl⟩) plain.noStar plain.noSlash
    rw [none, List.nil_append, trimStart_blanks_append blank', trimmed, bare, trimmed]
  · have dropped : dropDecoration (stars ++ (between ++ tail)) = between ++ tail :=
      dropDecoration_append decoration (head?_blanks_append blank' (by decide) plain.noStar)
        (head?_blanks_append blank' (by decide) plain.noSlash)
    rw [trimStart_decoration_append decoration none, dropped, trimStart_blanks_append blank',
      trimmed]

/-- A name is read up to the end of its word. -/
theorem takeWhile_isWord_append {more behind : List Char} (word : ∀ c ∈ more, isWord c = true)
    (ends : behind.head?.any isWord = false) : (more ++ behind).takeWhile isWord = more := by
  rw [takeWhile_append_of_stop ends, List.takeWhile_eq_self_iff.mpr word]

/-- The block tag of a line has the place and the name that the grammar gives it. -/
theorem hasBlockTag_of_blockTag? {line : List Char} {tag : InLine}
    (h : blockTag? line = some tag) : HasBlockTag line tag.offset tag.name.toList := by
  unfold blockTag? at h
  split at h
  · next c rest sign =>
      split at h
      · next start =>
          obtain ⟨before, stars, between, split, blank, decoration, blank'⟩ :=
            exists_layout_append_fromAtSign line
          obtain rfl := Option.some.inj h
          rw [blockTag_name, blockTag_offset, String.toList_ofList]
          rw [sign] at split
          refine ⟨before, stars, between, rest.dropWhile isWord, ?_, blank, decoration, blank',
            ⟨c, _, rfl, start, List.all_eq_true.mp List.all_takeWhile⟩,
            head?_dropWhile_isWord rest, ?_⟩
          · rw [List.cons_append, List.takeWhile_append_dropWhile, ← split]
          · rw [split]
            simp only [List.length_append, List.length_cons]
            omega
      · cases h
  · cases h

/-- A line that follows the grammar has a block tag. -/
theorem exists_blockTag?_of_hasBlockTag {line name : List Char} {offset : Nat}
    (h : HasBlockTag line offset name) :
    ∃ tag, blockTag? line = some tag ∧ tag.offset = offset ∧ tag.name.toList = name := by
  obtain ⟨before, stars, between, behind, rfl, blank, decoration, blank', named, ends, rfl⟩ := h
  obtain ⟨first, more, rfl, start, word⟩ := named
  have sign : fromAtSign _ = '@' :: first :: (more ++ behind) :=
    fromAtSign_layout blank decoration blank' (startsPlain_sign (first :: (more ++ behind)))
  refine ⟨_, blockTag?_of_sign sign start, ?_, ?_⟩
  · rw [blockTag_offset]
    simp only [List.length_append, List.length_cons]
    omega
  · rw [blockTag_name, String.toList_ofList, takeWhile_isWord_append word ends]

end Block

section Markers

def StartsWithMarker (cs : List Char) : Prop := ∃ marker, IsMarker marker ∧ marker <+: cs

instance : DecidablePred StartsWithMarker := fun _ =>
  decidable_of_iff _ isSome_markerStart?_iff

/-- The places of a line where a marker starts. -/
def markerStarts (line : List Char) : List Nat :=
  (List.range line.length).filter fun start => StartsWithMarker (line.drop start)

/-- The place of the at sign of the marker that starts at a given place. -/
def signOffset (line : List Char) (start : Nat) : Nat :=
  start + 1 + ((line.drop (start + 1)).takeWhile isBlank).length

theorem markerStarts_cons (c : Char) (rest : List Char) :
    markerStarts (c :: rest) =
      (if StartsWithMarker (c :: rest) then [0] else []) ++ (markerStarts rest).map (· + 1) := by
  rw [markerStarts, List.length_cons, List.range_succ_eq_map, List.filter_cons, List.filter_map,
    List.drop_zero]
  by_cases here : StartsWithMarker (c :: rest)
  · rw [if_pos (decide_eq_true here), if_pos here]
    rfl
  · rw [if_neg (by simpa using here), if_neg here]
    rfl

theorem signOffset_cons (c : Char) (rest : List Char) (start : Nat) :
    signOffset (c :: rest) (start + 1) = signOffset rest start + 1 := by
  simp only [signOffset, List.drop_succ_cons]
  omega

/-- The at sign of a marker stands behind the brace and the blanks that follow it. -/
theorem signOffset_of_markerStart? {cs : List Char} {distance : Nat}
    (h : markerStart? cs = some distance) : signOffset cs 0 = distance := by
  obtain ⟨before, behind, back, rfl, blank, -, rfl⟩ := markerStart?_eq_some_iff.mp h
  have inner : (before ++ '@' :: (inheritName ++ (behind ++ '\x7d' :: back))).takeWhile isBlank =
      before := by
    rw [List.takeWhile_append_of_pos blank, List.takeWhile_cons_of_neg (by decide),
      List.append_nil]
  simp only [signOffset, Nat.zero_add, List.drop_succ_cons, List.drop_zero, inner]
  omega

/-- The search for markers finds each marker of a text once, from left to right. -/
theorem markersFrom_eq_map (offset : Nat) (cs : List Char) :
    markersFrom offset cs = (markerStarts cs).map fun start =>
      ⟨offset + signOffset cs start, .inheritDoc, "inheritDoc", none, ""⟩ := by
  induction cs generalizing offset with
  | nil => rfl
  | cons c rest ih =>
      have later : (markerStarts rest).map (fun start =>
          (⟨offset + 1 + signOffset rest start, .inheritDoc, "inheritDoc", none, ""⟩ : InLine)) =
          ((markerStarts rest).map (· + 1)).map fun start =>
            ⟨offset + signOffset (c :: rest) start, .inheritDoc, "inheritDoc", none, ""⟩ := by
        rw [List.map_map]
        refine List.map_congr_left fun start _ => ?_
        rw [Function.comp_apply, signOffset_cons, Nat.add_assoc, Nat.add_comm 1]
      have here : StartsWithMarker (c :: rest) ↔ (markerStart? (c :: rest)).isSome = true :=
        isSome_markerStart?_iff.symm
      rw [markersFrom, markerStarts_cons, List.map_append, ← later, ← ih]
      split
      · next distance found =>
          rw [if_pos (here.mpr (by rw [found]; rfl)), List.map_singleton,
            signOffset_of_markerStart? found]
          rfl
      · next none =>
          rw [if_neg (by rw [here, none]; simp)]
          rfl

end Markers

/-- The tags of a line are told apart by their kind: one recogniser finds no markers, the other
nothing else. -/
theorem filter_kind_ofLine (line : List Char) :
    (ofLine line).filter (·.kind ≠ .inheritDoc) = (blockTag? line).toList ∧
      (ofLine line).filter (·.kind = .inheritDoc) = markersFrom 0 line := by
  have block (tag : InLine) (found : tag ∈ (blockTag? line).toList) : tag.kind ≠ .inheritDoc :=
    kind_ne_inheritDoc_of_blockTag? (Option.mem_toList.mp found)
  have marker (tag : InLine) (found : tag ∈ markersFrom 0 line) : tag.kind = .inheritDoc :=
    (standsIn_of_mem_markersFrom [] found).2.1
  rw [ofLine, List.filter_append, List.filter_append]
  constructor
  · rw [List.filter_eq_self.mpr fun tag found => decide_eq_true (block tag found),
      List.filter_eq_nil_iff.mpr fun tag found => by simp [marker tag found], List.append_nil]
  · rw [List.filter_eq_nil_iff.mpr fun tag found => by simpa using block tag found,
      List.filter_eq_self.mpr fun tag found => decide_eq_true (marker tag found), List.nil_append]

end Tag

namespace Comment

open Tag

/-- The tags are those that the grammar gives the line of a comment: a block tag if and only if the
line has the form of one, and a marker for every text of a marker in it. -/
structure FollowsGrammar (comment : Comment) (row : Nat) (line : List Char) (tags : List Tag) :
    Prop where
  block_atMostOne : (tags.filter (·.kind ≠ .inheritDoc)).length ≤ 1
  block_sound : ∀ tag ∈ tags, tag.kind ≠ .inheritDoc →
    ∃ offset, HasBlockTag line offset tag.name.toList ∧ tag.position = comment.position row offset
  block_complete : ∀ offset name, HasBlockTag line offset name →
    ∃ tag ∈ tags, tag.kind ≠ .inheritDoc ∧ tag.name.toList = name ∧
      tag.position = comment.position row offset
  markers : tags.filter (·.kind = .inheritDoc) = (markerStarts line).map fun start =>
    ⟨.inheritDoc, "inheritDoc", comment.position row (signOffset line start), none, ""⟩

theorem position_line (comment : Comment) (row offset : Nat) :
    (comment.position row offset).line = comment.start.line + row := by
  unfold position
  split
  · next first => simp [first]
  · rfl

def tagsInRow (comment : Comment) (row : Nat) : List Tag :=
  comment.tags.filter (·.position.line = comment.start.line + row)

/-- Of the tags placed in one line, the tags of a line are all or none. -/
theorem filter_place (comment : Comment) (row index : Nat) (tags : List InLine) :
    (tags.map (·.place comment index)).filter (·.position.line = comment.start.line + row) =
      if index = row then tags.map (·.place comment index) else [] := by
  have inRow (tag : InLine) :
      (tag.place comment index).position.line = comment.start.line + row ↔ index = row := by
    show (comment.position index tag.offset).line = _ ↔ _
    rw [position_line]
    omega
  split
  · next same =>
      refine List.filter_eq_self.mpr fun tag member => ?_
      obtain ⟨inLine, -, rfl⟩ := List.mem_map.mp member
      exact decide_eq_true ((inRow inLine).mpr same)
  · next other =>
      refine List.filter_eq_nil_iff.mpr fun tag member => ?_
      obtain ⟨inLine, -, rfl⟩ := List.mem_map.mp member
      simpa using mt (inRow inLine).mp other

/-- The tags that stand in a line of the comment are those of its text. -/
theorem tagsInRow_eq {comment : Comment} {row : Nat} {line : String}
    (numbered : comment.lines[row]? = some line) :
    comment.tagsInRow row = (ofLine line.toList).map (·.place comment row) := by
  have apart (lines : List String) (first : Nat) (off : row < first ∨ first + lines.length ≤ row) :
      (lines.zipIdx first).flatMap (fun entry =>
        if entry.2 = row then (ofLine entry.1.toList).map (·.place comment entry.2) else []) =
        [] := by
    refine List.flatMap_eq_nil_iff.mpr fun entry member => if_neg ?_
    have := List.mem_zipIdx member
    omega
  obtain ⟨inside, found⟩ := List.getElem?_eq_some_iff.mp numbered
  have split : comment.lines = comment.lines.take row ++ line :: comment.lines.drop (row + 1) := by
    rw [← found, ← List.drop_eq_getElem_cons inside, List.take_append_drop]
  have length : (comment.lines.take row).length = row := List.length_take_of_le inside.le
  calc comment.tagsInRow row
    _ = comment.lines.zipIdx.flatMap fun entry =>
          if entry.2 = row then (ofLine entry.1.toList).map (·.place comment entry.2) else [] := by
        rw [tagsInRow, tags, List.filter_flatMap]
        exact congrArg (comment.lines.zipIdx.flatMap ·)
          (funext fun entry => comment.filter_place row entry.2 _)
    _ = (ofLine line.toList).map (·.place comment row) := by
        rw [split, List.zipIdx_append, List.flatMap_append, apart _ _ (by omega), List.zipIdx_cons,
          List.flatMap_cons, apart _ _ (by omega)]
        simp [length]

/-- The tags of a line are those of the grammar. -/
theorem followsGrammar_ofLine (comment : Comment) (row : Nat) (line : List Char) :
    comment.FollowsGrammar row line ((ofLine line).map (·.place comment row)) := by
  obtain ⟨blocks, markers⟩ := filter_kind_ofLine line
  refine ⟨?_, ?_, ?_, ?_⟩
  · rw [List.filter_map, List.length_map]
    show ((ofLine line).filter (·.kind ≠ .inheritDoc)).length ≤ 1
    rw [blocks]
    exact Option.length_toList_le
  · rintro _ member notMarker
    obtain ⟨tag, inLine, rfl⟩ := List.mem_map.mp member
    have found : tag ∈ (blockTag? line).toList :=
      blocks ▸ List.mem_filter.mpr ⟨inLine, decide_eq_true notMarker⟩
    exact ⟨tag.offset, hasBlockTag_of_blockTag? (Option.mem_toList.mp found), rfl⟩
  · intro offset name grammar
    obtain ⟨tag, found, rfl, rfl⟩ := exists_blockTag?_of_hasBlockTag grammar
    have inLine : tag ∈ ofLine line := List.mem_append_left _ (Option.mem_toList.mpr found)
    exact ⟨_, List.mem_map_of_mem inLine, kind_ne_inheritDoc_of_blockTag? found, rfl, rfl⟩
  · rw [List.filter_map]
    show ((ofLine line).filter (·.kind = .inheritDoc)).map (·.place comment row) = _
    rw [markers, markersFrom_eq_map, List.map_map]
    refine List.map_congr_left fun start _ => ?_
    simp only [Function.comp_apply, InLine.place, Nat.zero_add]

/-- The tags of a comment are in strict reading order, and every one stands in a line of the comment
that has it by the grammar of tags. -/
theorem tags_follow_grammar (comment : Comment) :
    comment.tags.Pairwise (fun first second => first.position.Before second.position) ∧
      (∀ tag ∈ comment.tags, ∃ row < comment.lines.length, tag ∈ comment.tagsInRow row) ∧
      ∀ row line, comment.lines[row]? = some line →
        comment.FollowsGrammar row line.toList (comment.tagsInRow row) := by
  refine ⟨comment.pairwise_tags, ?_, ?_⟩
  · intro tag inComment
    obtain ⟨row, line, inLine, numbered, -, rfl⟩ := mem_tags_iff.mp inComment
    refine ⟨row, (List.getElem?_eq_some_iff.mp numbered).1, List.mem_filter.mpr ⟨inComment, ?_⟩⟩
    exact decide_eq_true (comment.position_line row inLine.offset)
  · intro row line numbered
    rw [tagsInRow_eq numbered]
    exact comment.followsGrammar_ofLine row line.toList

/-- A comment whose opening is glued to a tag, with an end of a comment before an at sign and with
two markers in its last line. -/
def gluedComment : Comment where
  lines := ["/***@param\x7b @inheritDoc \x7d", " **/ @return x",
    "  * @throws2 \x7b@inheritDoc\x7d\x7b\t@inheritDoc\x7d"]
  start := ⟨7, 5⟩

theorem gluedComment_follows_grammar :
    HasBlockTag "/***@param\x7b @inheritDoc \x7d".toList 4 "param".toList ∧
      (∃ tag ∈ gluedComment.tagsInRow 0, tag.kind ≠ .inheritDoc ∧ tag.name.toList = "param".toList ∧
        tag.position = ⟨7, 9⟩) ∧
      (∀ offset name, ¬ HasBlockTag " **/ @return x".toList offset name) ∧
      (gluedComment.tagsInRow 2).filter (·.kind = .inheritDoc) =
        [⟨.inheritDoc, "inheritDoc", ⟨9, 15⟩, none, ""⟩,
          ⟨.inheritDoc, "inheritDoc", ⟨9, 29⟩, none, ""⟩] := by
  obtain ⟨-, -, rows⟩ := tags_follow_grammar gluedComment
  have glued : HasBlockTag "/***@param\x7b @inheritDoc \x7d".toList 4 "param".toList :=
    ⟨[], "/***".toList, [], "\x7b @inheritDoc \x7d".toList, rfl, by simp, .inr ⟨1, rfl⟩, by simp,
      ⟨'p', "aram".toList, rfl, by decide, List.all_eq_true.mp (by decide +kernel)⟩,
      by decide +kernel, rfl⟩
  have none : gluedComment.tagsInRow 1 = [] := by decide +kernel
  refine ⟨glued, (rows 0 _ rfl).block_complete 4 _ glued, ?_, (rows 2 _ rfl).markers.trans ?_⟩
  · intro offset name closed
    obtain ⟨tag, found, -⟩ := (rows 1 _ rfl).block_complete offset name closed
    rw [none] at found
    cases found
  · decide +kernel

end Comment

end JavadocAudit

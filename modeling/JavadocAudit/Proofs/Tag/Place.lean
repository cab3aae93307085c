import JavadocAudit.Proofs.Tag.Marker
import Mathlib.Data.List.Nodup

/-!
# Where tags stand

Every tag of a line stands where its offset says: there is an at sign, and the name follows it. No
two tags of a line stand at the same place, because a block tag has nothing but blanks and
decoration before it, and a marker nothing but blanks between its brace and its at sign. The tags of
a comment are therefore in strict reading order.
-/

namespace JavadocAudit

namespace Tag

open Text

namespace InLine

/-- The line has the at sign and the name of the tag at its offset. -/
def StandsIn (tag : InLine) (line : List Char) : Prop :=
  ∃ front back, line = front ++ '@' :: (tag.name.toList ++ back) ∧ tag.offset = front.length

end InLine

section Markers

/-- What a marker looks like, from its brace on. -/
theorem exists_of_markerStart?_eq_some {cs : List Char} {distance : Nat}
    (h : markerStart? cs = some distance) :
    ∃ blanks back, cs = '\x7b' :: (blanks ++ '@' :: (inheritName ++ back)) ∧
      '\x7b' ∉ blanks ∧ distance = blanks.length + 1 := by
  obtain ⟨blanks, behind, back, rfl, blank, -, rfl⟩ := markerStart?_eq_some_iff.mp h
  exact ⟨blanks, behind ++ '\x7d' :: back, rfl, brace_not_mem_blanks blank, rfl⟩

/-- A text that has no opening brace adds no markers. -/
theorem markersFrom_append_of_no_brace {front : List Char} (h : '\x7b' ∉ front) (offset : Nat)
    (cs : List Char) :
    markersFrom offset (front ++ cs) = markersFrom (offset + front.length) cs := by
  induction front generalizing offset with
  | nil => rfl
  | cons c rest ih =>
      obtain ⟨hc, hrest⟩ : c ≠ '\x7b' ∧ '\x7b' ∉ rest := by
        simpa [eq_comm] using h
      have no_marker : markerStart? (c :: (rest ++ cs)) = none := by
        unfold markerStart?
        split
        · next heq => exact absurd (List.cons.inj heq).1 hc
        · rfl
      rw [List.cons_append, markersFrom, no_marker, ih hrest]
      simp only [List.length_cons]
      congr 1
      omega

theorem offset_lt_of_mem_markersFrom {offset : Nat} {cs : List Char} {tag : InLine}
    (h : tag ∈ markersFrom offset cs) : offset < tag.offset := by
  induction cs generalizing offset with
  | nil => simp [markersFrom] at h
  | cons c rest ih =>
      rw [markersFrom] at h
      split at h
      · next distance found =>
          obtain ⟨blanks, back, -, -, rfl⟩ := exists_of_markerStart?_eq_some found
          rcases List.mem_cons.mp h with rfl | h
          · change offset < offset + (blanks.length + 1)
            omega
          · exact Nat.lt_of_succ_lt (ih h)
      · exact Nat.lt_of_succ_lt (ih h)

/-- Every marker stands in the text, which starts at the given offset of the line. -/
theorem standsIn_of_mem_markersFrom (front : List Char) {cs : List Char} {tag : InLine}
    (h : tag ∈ markersFrom front.length cs) :
    tag.StandsIn (front ++ cs) ∧ tag.kind = .inheritDoc ∧ tag.name = "inheritDoc" := by
  induction cs generalizing front with
  | nil => simp [markersFrom] at h
  | cons c rest ih =>
      have later (h : tag ∈ markersFrom (front.length + 1) rest) :
          tag.StandsIn (front ++ c :: rest) ∧ tag.kind = .inheritDoc ∧
            tag.name = "inheritDoc" := by
        simpa using ih (front ++ [c]) (by simpa using h)
      rw [markersFrom] at h
      split at h
      · next distance found =>
          obtain ⟨blanks, back, split, -, rfl⟩ := exists_of_markerStart?_eq_some found
          rcases List.mem_cons.mp h with rfl | h
          · refine ⟨⟨front ++ '\x7b' :: blanks, back, ?_, ?_⟩, rfl, String.ofList_toList⟩
            · simp only [split, String.toList_ofList, List.append_assoc, List.cons_append]
            · simp only [List.length_append, List.length_cons]
          · exact later h
      · exact later h

theorem argument_of_mem_markersFrom {offset : Nat} {cs : List Char} {tag : InLine}
    (h : tag ∈ markersFrom offset cs) : tag.argument = none := by
  induction cs generalizing offset with
  | nil => simp [markersFrom] at h
  | cons c rest ih =>
      rw [markersFrom] at h
      split at h
      · rcases List.mem_cons.mp h with rfl | h
        · rfl
        · exact ih h
      · exact ih h

/-- Markers come one after the other. -/
theorem pairwise_markersFrom (offset : Nat) (cs : List Char) :
    (markersFrom offset cs).Pairwise (·.offset < ·.offset) := by
  induction cs generalizing offset with
  | nil => exact .nil
  | cons c rest ih =>
      rw [markersFrom]
      split
      · next distance found =>
          obtain ⟨blanks, back, split, noBrace, rfl⟩ := exists_of_markerStart?_eq_some found
          refine List.pairwise_cons.mpr ⟨?_, ih _⟩
          intro tag member
          -- The next brace stands behind the at sign of this marker.
          have front : '\x7b' ∉ blanks ++ ['@'] := by simp [noBrace]
          rw [(List.cons.inj split).2, ← List.singleton_append, ← List.append_assoc,
            markersFrom_append_of_no_brace front] at member
          have := offset_lt_of_mem_markersFrom member
          simp only [List.length_append, List.length_singleton] at this
          change offset + (blanks.length + 1) < tag.offset
          omega
      · exact ih _

end Markers

section Block

/-- The opening of a comment or a run of stars, which may be empty. -/
def IsDecoration (cs : List Char) : Prop :=
  (∃ count, cs = List.replicate count '*') ∨
    ∃ count, cs = '/' :: '*' :: '*' :: List.replicate count '*'

/-- What is dropped from the start of a line is decoration. -/
theorem exists_decoration_append (cs : List Char) :
    ∃ stars, cs = stars ++ dropDecoration cs ∧ IsDecoration stars := by
  have run (rest : List Char) : ∃ count, rest =
      List.replicate count '*' ++ rest.dropWhile (· = '*') := by
    have stars : rest.takeWhile (· = '*') = List.replicate _ '*' :=
      List.eq_replicate_iff.mpr ⟨rfl, fun c member => by
        simpa using List.all_eq_true.mp List.all_takeWhile c member⟩
    exact ⟨_, by rw [← stars, List.takeWhile_append_dropWhile]⟩
  fun_cases dropDecoration cs with
  | case1 rest =>
      obtain ⟨count, split⟩ := run rest
      exact ⟨'/' :: '*' :: '*' :: List.replicate count '*', congrArg (['/', '*', '*'] ++ ·) split,
        .inr ⟨count, rfl⟩⟩
  | case2 rest =>
      obtain ⟨count, split⟩ := run rest
      exact ⟨'*' :: List.replicate count '*', congrArg ('*' :: ·) split, .inl ⟨count + 1, rfl⟩⟩
  | case3 cs => exact ⟨[], rfl, .inl ⟨0, rfl⟩⟩

theorem brace_not_mem_decoration {stars : List Char} (h : IsDecoration stars) :
    '\x7b' ∉ stars := by
  rcases h with ⟨count, rfl⟩ | ⟨count, rfl⟩ <;> simp

/-- Before a block tag stand blanks, decoration and blanks again. -/
theorem exists_layout_append_fromAtSign (line : List Char) :
    ∃ before stars between, line = before ++ (stars ++ (between ++ fromAtSign line)) ∧
      (∀ c ∈ before, isBlank c = true) ∧ IsDecoration stars ∧
      ∀ c ∈ between, isBlank c = true := by
  obtain ⟨before, split₁, blank₁⟩ := exists_blanks_append_trimStart line
  obtain ⟨stars, split₂, decoration⟩ := exists_decoration_append (trimStart line)
  obtain ⟨between, split₃, blank₃⟩ :=
    exists_blanks_append_trimStart (dropDecoration (trimStart line))
  refine ⟨before, stars, between, ?_, blank₁, decoration, blank₃⟩
  rw [fromAtSign, ← split₃, ← split₂, ← split₁]

/-- What stands before a block tag has no brace. -/
theorem exists_append_fromAtSign (line : List Char) :
    ∃ front, line = front ++ fromAtSign line ∧ '\x7b' ∉ front := by
  obtain ⟨before, stars, between, split, blank₁, decoration, blank₃⟩ :=
    exists_layout_append_fromAtSign line
  refine ⟨before ++ (stars ++ between), by simpa using split, ?_⟩
  simp [brace_not_mem_blanks blank₁, brace_not_mem_decoration decoration,
    brace_not_mem_blanks blank₃]

@[simp] theorem blockTag_offset (offset : Nat) (name text : List Char) :
    (blockTag offset name text).offset = offset := by
  simp only [blockTag]
  split
  · split <;> rfl
  · rfl

@[simp] theorem blockTag_name (offset : Nat) (name text : List Char) :
    (blockTag offset name text).name = String.ofList name := by
  simp only [blockTag]
  split
  · split <;> rfl
  · rfl

theorem blockTag_kind (offset : Nat) (name text : List Char) :
    (blockTag offset name text).kind = .nameless ∨
      (blockTag offset name text).kind = Kind.ofName (String.ofList name) := by
  simp only [blockTag]
  split
  · split
    · exact .inr rfl
    · exact .inl rfl
  · exact .inr rfl

theorem blockTag_kind_of_other (offset : Nat) {name : List Char} (text : List Char)
    (other : Kind.ofName (String.ofList name) = .other) :
    (blockTag offset name text).kind = .other := by
  simp [blockTag, other, Kind.takesArgument]

theorem blockTag_kind_of_argument {offset : Nat} {name text : List Char} {argument : String}
    (h : (blockTag offset name text).argument = some argument) :
    (blockTag offset name text).kind = Kind.ofName (String.ofList name) := by
  simp only [blockTag] at h ⊢
  split at h
  · split at h
    · next takes _ _ _ _ => rw [if_pos takes]
    · cases h
  · cases h

/-- A block tag stands in its line, behind characters that are no brace. -/
theorem exists_of_blockTag?_eq_some {line : List Char} {tag : InLine}
    (h : blockTag? line = some tag) :
    ∃ front back, line = front ++ '@' :: (tag.name.toList ++ back) ∧ '\x7b' ∉ front ∧
      tag.offset = front.length := by
  unfold blockTag? at h
  split at h
  · next c rest sign =>
      split at h
      · obtain ⟨front, split, noBrace⟩ := exists_append_fromAtSign line
        rw [sign] at split
        rw [← Option.some.inj h]
        refine ⟨front, rest.dropWhile isWord, ?_, noBrace, ?_⟩
        · rw [blockTag_name, String.toList_ofList, List.cons_append,
            List.takeWhile_append_dropWhile, ← split]
        · rw [blockTag_offset, split]
          simp only [List.length_append, List.length_cons]
          omega
      · cases h
  · cases h

end Block

/-- Every tag of a line stands in it. -/
theorem standsIn_of_mem_ofLine {line : List Char} {tag : InLine} (h : tag ∈ ofLine line) :
    tag.StandsIn line := by
  rcases List.mem_append.mp h with h | h
  · obtain ⟨front, back, split, -, offset⟩ :=
      exists_of_blockTag?_eq_some (Option.mem_toList.mp h)
    exact ⟨front, back, split, offset⟩
  · exact (standsIn_of_mem_markersFrom [] h).1

/-- The kind of a block tag is that of its name, unless it names nothing. -/
theorem kind_of_blockTag?_eq_some {line : List Char} {tag : InLine}
    (h : blockTag? line = some tag) : tag.kind = .nameless ∨ tag.kind = Kind.ofName tag.name := by
  unfold blockTag? at h
  split at h
  · split at h
    · rw [← Option.some.inj h, blockTag_name]
      exact blockTag_kind _ _ _
    · cases h
  · cases h

/-- A tag that names something has the kind of its own name. -/
theorem kind_of_argument_eq_some {line : List Char} {tag : InLine} {argument : String}
    (h : tag ∈ ofLine line) (named : tag.argument = some argument) :
    tag.kind = Kind.ofName tag.name := by
  rcases List.mem_append.mp h with block | marker
  · have block := Option.mem_toList.mp block
    unfold blockTag? at block
    split at block
    · split at block
      · obtain rfl := Option.some.inj block
        rw [blockTag_name]
        exact blockTag_kind_of_argument named
      · cases block
    · cases block
  · rw [argument_of_mem_markersFrom marker] at named
    cases named

/-- Tags for parameters and for results have one name each, and a block tag is never a marker. -/
theorem name_of_ofName_eq (name : String) :
    (Kind.ofName name = .param → name = "param") ∧ (Kind.ofName name = .result → name = "return") ∧
      Kind.ofName name ≠ .inheritDoc := by
  unfold Kind.ofName
  split <;> simp

/-- The names of block tags that say something about a declaration. -/
def blockNames : List String := ["param", "return", "throws", "exception"]

theorem mem_blockNames_of_ofName {name : String} (h : Kind.ofName name ≠ .other) :
    name ∈ blockNames := by
  unfold Kind.ofName at h
  split at h
  · decide
  · decide
  · decide
  · decide
  · exact absurd rfl h

theorem mem_blockNames_of_blockTag? {line : List Char} {tag : InLine}
    (h : blockTag? line = some tag) (own : tag.kind ≠ .other) : tag.name ∈ blockNames := by
  unfold blockTag? at h
  split at h
  · split at h
    · obtain rfl := Option.some.inj h
      rw [blockTag_name]
      exact mem_blockNames_of_ofName fun other => own (blockTag_kind_of_other _ _ other)
    · cases h
  · cases h

theorem kind_ne_inheritDoc_of_blockTag? {line : List Char} {tag : InLine}
    (h : blockTag? line = some tag) : tag.kind ≠ .inheritDoc := by
  rcases kind_of_blockTag?_eq_some h with kind | kind
  · simp [kind]
  · rw [kind]
    exact (name_of_ofName_eq tag.name).2.2

/-- A tag for a parameter, a result or inherited text has one name only. -/
theorem name_of_mem_ofLine {line : List Char} {tag : InLine} (h : tag ∈ ofLine line) :
    (tag.kind = .param → tag.name = "param") ∧ (tag.kind = .result → tag.name = "return") ∧
      (tag.kind = .inheritDoc → tag.name = "inheritDoc") := by
  rcases List.mem_append.mp h with h | h
  · have block := Option.mem_toList.mp h
    obtain ⟨param, result, -⟩ := name_of_ofName_eq tag.name
    have notMarker := kind_ne_inheritDoc_of_blockTag? block
    rcases kind_of_blockTag?_eq_some block with kind | kind
    · simp [kind]
    · exact ⟨fun own => param (kind ▸ own), fun own => result (kind ▸ own),
        fun marker => absurd marker notMarker⟩
  · obtain ⟨-, kind, name⟩ := standsIn_of_mem_markersFrom [] h
    simp [kind, name]

/-- The tags of a line that are markers tell whether there is one. -/
theorem exists_inheritDoc_ofLine_iff {line : List Char} :
    (∃ tag ∈ ofLine line, tag.kind = .inheritDoc) ↔ HasMarker line := by
  rw [← not_iff_not, ← markersFrom_eq_nil_iff 0]
  constructor
  · intro none
    refine List.eq_nil_iff_forall_not_mem.mpr fun tag member => none ⟨tag, ?_, ?_⟩
    · exact List.mem_append_right _ member
    · exact (standsIn_of_mem_markersFrom [] member).2.1
  · rintro none ⟨tag, member, kind⟩
    rw [ofLine, none, List.append_nil] at member
    exact kind_ne_inheritDoc_of_blockTag? (Option.mem_toList.mp member) kind

/-- The tags of a line come one after the other. -/
theorem pairwise_ofLine (line : List Char) : (ofLine line).Pairwise (·.offset < ·.offset) := by
  refine List.pairwise_append.mpr ⟨?_, pairwise_markersFrom 0 line, ?_⟩
  · cases blockTag? line <;> simp
  · intro tag block marker member
    obtain ⟨front, back, split, noBrace, offset⟩ :=
      exists_of_blockTag?_eq_some (Option.mem_toList.mp block)
    rw [split, markersFrom_append_of_no_brace noBrace, ← offset, Nat.zero_add] at member
    exact offset_lt_of_mem_markersFrom member

end Tag

namespace Comment

/-- The tags of a comment are those of its lines, each at its place. -/
theorem mem_tags_iff {comment : Comment} {tag : Tag} :
    tag ∈ comment.tags ↔ ∃ (row : Nat) (line : String) (inLine : Tag.InLine),
      comment.lines[row]? = some line ∧ inLine ∈ Tag.ofLine line.toList ∧
        tag = inLine.place comment row := by
  constructor
  · intro h
    obtain ⟨⟨line, row⟩, inLines, member⟩ := List.mem_flatMap.mp h
    obtain ⟨inLine, found, rfl⟩ := List.mem_map.mp member
    exact ⟨row, line, inLine, List.mem_zipIdx_iff_getElem?.mp inLines, found, rfl⟩
  · rintro ⟨row, line, inLine, numbered, found, rfl⟩
    exact List.mem_flatMap.mpr
      ⟨(line, row), List.mem_zipIdx_iff_getElem?.mpr numbered, List.mem_map_of_mem found⟩

theorem name_of_mem_tags {comment : Comment} {tag : Tag} (h : tag ∈ comment.tags) :
    (tag.kind = .param → tag.name = "param") ∧ (tag.kind = .result → tag.name = "return") ∧
      (tag.kind = .inheritDoc → tag.name = "inheritDoc") := by
  obtain ⟨row, line, inLine, -, found, rfl⟩ := mem_tags_iff.mp h
  exact Tag.name_of_mem_ofLine found

theorem name_mem_blockNames {comment : Comment} {tag : Tag} (h : tag ∈ comment.tags)
    (own : tag.kind ≠ .other) (notMarker : tag.kind ≠ .inheritDoc) : tag.name ∈ Tag.blockNames := by
  obtain ⟨row, line, inLine, -, found, rfl⟩ := mem_tags_iff.mp h
  rcases List.mem_append.mp found with block | marker
  · exact Tag.mem_blockNames_of_blockTag? (Option.mem_toList.mp block) own
  · exact absurd (Tag.standsIn_of_mem_markersFrom [] marker).2.1 notMarker

theorem kind_of_argument_eq_some {comment : Comment} {tag : Tag} {argument : String}
    (h : tag ∈ comment.tags) (named : tag.argument = some argument) :
    tag.kind = Tag.Kind.ofName tag.name := by
  obtain ⟨row, line, inLine, -, found, rfl⟩ := mem_tags_iff.mp h
  exact Tag.kind_of_argument_eq_some found named

def addLine (comment : Comment) (line : String) : Comment :=
  { comment with lines := comment.lines ++ [line] }

/-- The tags of a further line follow those of the comment. -/
theorem tags_addLine (comment : Comment) (line : String) :
    (comment.addLine line).tags =
      comment.tags ++
        (Tag.ofLine line.toList).map (·.place comment comment.lines.length) := by
  simp only [tags, addLine, List.zipIdx_append, List.flatMap_append, Nat.zero_add,
    List.zipIdx_singleton, List.flatMap_singleton]
  rfl

/-- The tags of a comment depend on the tags of its lines and on its start. -/
theorem tags_eq_flatMap (comment : Comment) :
    comment.tags =
      (comment.lines.map fun line => Tag.ofLine line.toList).zipIdx.flatMap
        fun (tags, row) => tags.map (·.place ⟨[], comment.start⟩ row) := by
  rw [List.zipIdx_map, List.flatMap_map]
  rfl

theorem position_before_of_offset_lt (comment : Comment) (index : Nat) {first second : Nat}
    (h : first < second) :
    (comment.position index first).Before (comment.position index second) := by
  unfold position Position.Before
  split <;> simp <;> omega

theorem position_before_of_index_lt (comment : Comment) {first second : Nat} (h : first < second)
    (offset offset' : Nat) :
    (comment.position first offset).Before (comment.position second offset') := by
  left
  have hs : second ≠ 0 := by omega
  simp only [position, if_neg hs]
  split <;> simp <;> omega

/-- The tags of a comment are in reading order, no two of them at one position. -/
theorem pairwise_tags (comment : Comment) :
    comment.tags.Pairwise fun first second => first.position.Before second.position := by
  have indices : comment.lines.zipIdx.Pairwise (·.2 < ·.2) := by
    rw [← List.pairwise_map (f := Prod.snd) (R := (· < ·)), List.zipIdx_map_snd]
    exact List.pairwise_lt_range'
  refine List.pairwise_flatMap.mpr ⟨?_, ?_⟩
  · rintro ⟨line, index⟩ -
    refine List.pairwise_map.mpr ((Tag.pairwise_ofLine line.toList).imp ?_)
    intro first second h
    exact comment.position_before_of_offset_lt index h
  · refine indices.imp ?_
    rintro ⟨line, index⟩ ⟨line', index'⟩ h first hfirst second hsecond
    obtain ⟨tag, -, rfl⟩ := List.mem_map.mp hfirst
    obtain ⟨tag', -, rfl⟩ := List.mem_map.mp hsecond
    exact comment.position_before_of_index_lt h _ _

theorem eq_of_position_eq {comment : Comment} {first second : Tag}
    (inComment : first ∈ comment.tags) (inComment' : second ∈ comment.tags)
    (same : first.position = second.position) : first = second := by
  have distinct : (comment.tags.map Tag.position).Nodup := by
    refine List.pairwise_map.mpr (comment.pairwise_tags.imp ?_)
    intro a b before equal
    rw [equal] at before
    exact Position.Before.irrefl _ before
  exact List.inj_on_of_nodup_map distinct inComment inComment' same

end Comment

end JavadocAudit

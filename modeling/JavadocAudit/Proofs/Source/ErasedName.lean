import JavadocAudit.Proofs.Source.Written

/-!
# Names of types as they are recorded

The name of a type is recorded from its text. Type arguments at the end are left out with the part
of the tree that they are. Others are cut out of the text, from the first `<` to the last `>`. All
else stays as it is written: annotations, brackets, blanks and remarks.

So the recorded name is the name that the words of the type make up if and only if the type is
plain: it has neither annotations nor brackets, type arguments in one place at most, and nothing
between its words and dots.
-/

namespace JavadocAudit.Source

open Text

namespace Tree

section Plain

/-- The parts of a type without type arguments at its end. -/
def withoutLastArguments (parts : List Tree) : List Tree :=
  if parts.getLast?.any (isNode .typeArguments) then parts.dropLast else parts

/-- The parts are words, dots and type arguments, these in one place at most, with nothing in
between. Only before type arguments at the end something may stand. -/
def arePlain (parts : List Tree) : Bool :=
  parts.all (fun part => part.isNamePart || part.isNode .typeArguments) &&
    (parts.filter (isNode .typeArguments)).length ≤ 1 &&
    (withoutLastArguments parts).tail.all isTight

/-- A type that is written as a name, with type arguments in one place at most. -/
def isPlain (type : Tree) : Bool := arePlain type.children

variable {first last : Tree} {parts front back : List Tree}

theorem arePlain_iff :
    arePlain parts = true ↔
      (∀ part ∈ parts, part.isNamePart = true ∨ part.isNode .typeArguments = true) ∧
        (parts.filter (isNode .typeArguments)).length ≤ 1 ∧
        ∀ part ∈ (withoutLastArguments parts).tail, part.isTight = true := by
  simp [arePlain, and_assoc]

theorem isNode_arguments_of_isNamePart {part : Tree} (h : part.isNamePart = true) :
    part.isNode .typeArguments = false := by
  cases part with
  | leaf | remark => rfl
  | node => cases h

theorem filter_arguments_of_tightName (h : TightName parts) :
    parts.filter (isNode .typeArguments) = [] :=
  List.filter_eq_nil_iff.mpr fun part member => by
    simp [isNode_arguments_of_isNamePart (h part member).1]

/-- Parts that are words, dots and type arguments, but no type arguments, are words and dots. -/
theorem tightName_of_filter_eq_nil
    (named : ∀ part ∈ parts, part.isNamePart = true ∨ part.isNode .typeArguments = true)
    (none : parts.filter (isNode .typeArguments) = [])
    (tight : ∀ part ∈ parts, part.isTight = true) : TightName parts := by
  intro part member
  refine ⟨(named part member).resolve_right ?_, tight part member⟩
  simpa using List.filter_eq_nil_iff.mp none part member

/-- A type with type arguments at its end is plain if words and dots with nothing in between stand
before them. -/
theorem arePlain_concat_iff (word : first.isNamePart = true)
    (arguments : last.isNode .typeArguments = true) :
    arePlain (first :: (parts ++ [last])) = true ↔ TightName parts := by
  have ends : withoutLastArguments (first :: (parts ++ [last])) = first :: parts := by
    rw [withoutLastArguments, ← List.cons_append, List.getLast?_concat, Option.any_some,
      if_pos arguments, List.dropLast_concat]
  have count : (first :: (parts ++ [last])).filter (isNode .typeArguments) =
      parts.filter (isNode .typeArguments) ++ [last] := by
    rw [List.filter_cons_of_neg (by simp [isNode_arguments_of_isNamePart word]),
      List.filter_append, List.filter_cons_of_pos arguments, List.filter_nil]
  rw [arePlain_iff, ends, count, List.tail_cons, List.length_append, List.length_singleton]
  constructor
  · rintro ⟨named, once, tight⟩
    have none : parts.filter (isNode .typeArguments) = [] :=
      List.eq_nil_of_length_eq_zero (by omega)
    refine tightName_of_filter_eq_nil (fun part member => named part ?_) none tight
    exact List.mem_cons_of_mem _ (List.mem_append_left _ member)
  · intro tight
    refine ⟨?_, by rw [filter_arguments_of_tightName tight]; rfl,
      fun part member => (tight part member).2⟩
    simp only [List.forall_mem_cons, List.forall_mem_append]
    exact ⟨.inl word, fun part member => .inl (tight part member).1, .inr arguments, by simp⟩

/-- Words and dots with nothing in between, and type arguments in one place at most. -/
inductive GoesOnPlainly : List Tree → Prop where
  | name {parts : List Tree} (tight : TightName parts) : GoesOnPlainly parts
  | around {front back : List Tree} {arguments : Tree} (before : TightName front)
      (behind : TightName back) (isArguments : arguments.isNode .typeArguments = true)
      (tight : arguments.isTight = true) : GoesOnPlainly (front ++ arguments :: back)

/-- A type without type arguments at its end is plain if it goes on plainly behind its first
word. -/
theorem arePlain_cons_iff (word : first.isNamePart = true)
    (other : parts.getLast?.any (isNode .typeArguments) = false) :
    arePlain (first :: parts) = true ↔ GoesOnPlainly parts := by
  have firstOther := isNode_arguments_of_isNamePart word
  have ends : withoutLastArguments (first :: parts) = first :: parts := by
    rw [withoutLastArguments, if_neg]
    cases parts with
    | nil => simp [firstOther]
    | cons part rest =>
        rw [List.getLast?_cons_cons, other]
        simp
  have count : (first :: parts).filter (isNode .typeArguments) =
      parts.filter (isNode .typeArguments) :=
    List.filter_cons_of_neg (by simp [firstOther])
  rw [arePlain_iff, ends, count, List.tail_cons, List.forall_mem_cons]
  constructor
  · rintro ⟨⟨-, named⟩, once, tight⟩
    cases found : parts.filter (isNode .typeArguments) with
    | nil => exact .name (tightName_of_filter_eq_nil named found tight)
    | cons arguments more =>
        have member : arguments ∈ parts.filter (isNode .typeArguments) :=
          found ▸ List.mem_cons_self
        obtain ⟨inside, isArguments⟩ := List.mem_filter.mp member
        obtain ⟨front, back, rfl⟩ := List.append_of_mem inside
        rw [List.filter_append, List.filter_cons_of_pos isArguments, List.length_append,
          List.length_cons] at once
        rw [List.forall_mem_append, List.forall_mem_cons] at named tight
        refine .around ?_ ?_ isArguments tight.2.1
        · exact tightName_of_filter_eq_nil named.1
            (List.eq_nil_of_length_eq_zero (by omega)) tight.1
        · exact tightName_of_filter_eq_nil named.2.2
            (List.eq_nil_of_length_eq_zero (by omega)) tight.2.2
  · rintro (tight | ⟨before, behind, isArguments, tight⟩)
    · exact ⟨⟨.inl word, fun part member => .inl (tight part member).1⟩,
        by rw [filter_arguments_of_tightName tight]; exact Nat.zero_le 1,
        fun part member => (tight part member).2⟩
    · simp only [List.forall_mem_append, List.forall_mem_cons]
      refine ⟨⟨.inl word, fun part member => .inl (before part member).1, .inr isArguments,
        fun part member => .inl (behind part member).1⟩, ?_,
        fun part member => (before part member).2, tight,
        fun part member => (behind part member).2⟩
      rw [List.filter_append, List.filter_cons_of_pos isArguments,
        filter_arguments_of_tightName before, filter_arguments_of_tightName behind]
      rfl

end Plain

section Recorded

variable {kind : Kind} {first last : Tree} {token : Token} {parts : List Tree}

/-- Type arguments at the end are left out. -/
theorem toList_typeName_concat (arguments : last.isNode .typeArguments = true) :
    (node kind (leaf token :: (parts ++ [last]))).typeName.toList =
      token.text.toList ++ Token.written (tokensOf parts) := by
  have ends : (leaf token :: (parts ++ [last])).getLast? = some last := by
    rw [← List.cons_append, List.getLast?_concat]
  have front : (leaf token :: (parts ++ [last])).dropLast = leaf token :: parts := by
    rw [← List.cons_append, List.dropLast_concat]
  have bare : (leaf token).isNode .annot = false := rfl
  simp only [typeName, children, ends, front, arguments, List.head?_cons, Option.any_some, bare,
    Bool.not_false, Bool.and_true, if_true]
  rw [tokensOf, tokens, List.singleton_append, Token.toList_textOf]

/-- Otherwise type arguments are cut out of the text. -/
theorem toList_typeName_cons {more : List Token} (tokens : first.tokens = token :: more)
    (bare : first.isNode .typeArguments = false)
    (cut : first.isNode .annot = true ∨ parts.getLast?.any (isNode .typeArguments) = false) :
    (node kind (first :: parts)).typeName.toList =
      trim (withoutArguments (token.text.toList ++ Token.written (more ++ tokensOf parts))) := by
  have text : (node kind (first :: parts)).text.toList =
      token.text.toList ++ Token.written (more ++ tokensOf parts) := by
    rw [Tree.text, Tree.tokens, tokensOf, tokens, List.cons_append, Token.toList_textOf]
  obtain ⟨last, ends⟩ : ∃ last, (first :: parts).getLast? = some last :=
    ⟨_, List.getLast?_cons⟩
  have whole : (last.isNode .typeArguments && !first.isNode .annot) = false := by
    rcases cut with annot | other
    · rw [annot, Bool.not_true, Bool.and_false]
    · have noArguments : last.isNode .typeArguments = false := by
        cases parts with
        | nil =>
            obtain rfl : first = last := Option.some.inj ends
            exact bare
        | cons part rest =>
            rw [List.getLast?_cons_cons] at ends
            rwa [ends] at other
      rw [noArguments, Bool.false_and]
  simp only [typeName, children, ends, List.head?_cons, Option.any_some, whole]
  rw [if_neg (by simp), String.toList_ofList, text]

theorem isNameChar_of_mem_nameText (forms : AreWellFormed parts) :
    ∀ c ∈ nameText parts, isNameChar c = true := by
  intro c member
  obtain ⟨part, inName, inText⟩ := List.mem_flatMap.mp member
  obtain ⟨inParts, name⟩ := List.mem_filter.mp inName
  obtain ⟨form, -⟩ := forms part inParts
  cases part with
  | leaf token =>
      have named : token.kind = .word ∨ token.isSymbol "." = true := by
        simpa [isNamePart] using name
      exact Token.isNameChar_of_mem form.self named c inText
  | remark | node => cases name

theorem not_mem_nameText (forms : AreWellFormed parts) {c : Char} (noName : isNameChar c = false) :
    c ∉ nameText parts := by
  intro member
  rw [isNameChar_of_mem_nameText forms c member] at noName
  cases noName

theorem nameText_cons_of_isNamePart (name : (leaf token).isNamePart = true) (parts : List Tree) :
    nameText (leaf token :: parts) = token.text.toList ++ nameText parts := by
  simp [nameText, name, Tree.text, tokens, Token.textOf]

theorem nameText_append_arguments {arguments : Tree}
    (isArguments : arguments.isNode .typeArguments = true) (front back : List Tree) :
    nameText (front ++ arguments :: back) = nameText front ++ nameText back := by
  have noName : arguments.isNamePart = false := by
    cases name : arguments.isNamePart with
    | false => rfl
    | true =>
        rw [isNode_arguments_of_isNamePart name] at isArguments
        cases isArguments
  rw [nameText_append, nameText, nameText, List.filter_cons_of_neg (by simp [noName]), nameText]

section Annotated

/-- With annotations at its start, a type is not recorded by its name. -/
theorem typeName_ne_of_annot (forms : AreWellFormed (first :: parts))
    (annot : first.isNode .annot = true) :
    (node kind (first :: parts)).typeName.toList ≠ nameText (first :: parts) := by
  obtain ⟨form, -⟩ := forms first List.mem_cons_self
  obtain ⟨inner, rfl⟩ := exists_of_isNode annot
  obtain ⟨sign, more, tokens, isSign, -⟩ : HasAnnotationForm (tokensOf inner) := form.self
  have text : sign.text.toList = ['@'] := Token.toList_of_isSymbol isSign
  have starts : (node .annot inner).tokens = sign :: more := tokens
  intro same
  rw [toList_typeName_cons starts rfl (.inl rfl), text, List.singleton_append] at same
  have inCut := List.mem_of_mem_head?
    (head?_withoutArguments (by decide : '@' ≠ '<') (Token.written (more ++ tokensOf parts)))
  have inName := mem_trim_of_not_blank inCut (by decide)
  rw [same] at inName
  exact absurd (isNameChar_of_mem_nameText forms '@' inName) (by decide +kernel)

end Annotated

section Arguments

theorem written_of_arguments {arguments : Tree} (form : arguments.Every HasForm)
    (isArguments : arguments.isNode .typeArguments = true) :
    ∃ lead middle, Token.written arguments.tokens = lead ++ '<' :: (middle ++ ['>']) ∧
      (arguments.isTight = true → lead = []) := by
  obtain ⟨inner, rfl⟩ := exists_of_isNode isArguments
  obtain ⟨opening, middle, closing, tokens, opens, closes⟩ : InAngles (tokensOf inner) :=
    form.self
  refine ⟨opening.lead.toList, Token.written middle ++ closing.lead.toList, ?_, ?_⟩
  · rw [Tree.tokens, tokens, Token.written_cons, Token.written_append, Token.written_cons,
      Token.toList_of_isSymbol opens, Token.toList_of_isSymbol closes]
    simp [Token.written]
  · intro tight
    simpa [isTight, Tree.tokens, tokens, Token.isGlued] using tight

theorem written_append_arguments {arguments : Tree} (form : arguments.Every HasForm)
    (isArguments : arguments.isNode .typeArguments = true) (front back : List Tree) :
    ∃ lead middle, Token.written (tokensOf (front ++ arguments :: back)) =
        Token.written (tokensOf front) ++
          (lead ++ '<' :: (middle ++ '>' :: Token.written (tokensOf back))) ∧
      (arguments.isTight = true → lead = []) := by
  obtain ⟨lead, middle, written, glued⟩ := written_of_arguments form isArguments
  refine ⟨lead, middle, ?_, glued⟩
  rw [tokensOf_append, tokensOf, Token.written_append, Token.written_append, written]
  simp

/-- Between two type arguments stands a word. -/
theorem nameText_ne_nil_between {arguments : Tree} {middle back : List Tree}
    (chained : (first :: (middle ++ arguments :: back)).IsChain ArgumentsFollowWords)
    (forms : AreWellFormed middle) (firstOther : first.wordText? = none)
    (isArguments : arguments.isNode .typeArguments = true) : nameText middle ≠ [] := by
  rcases middle.eq_nil_or_concat with rfl | ⟨inner, part, rfl⟩
  · have word := (List.isChain_cons_cons.mp chained).1 isArguments
    rw [firstOther] at word
    cases word
  · rw [List.concat_eq_append] at forms chained ⊢
    have word : part.wordText?.isSome = true := by
      rw [List.append_assoc, List.singleton_append, ← List.cons_append,
        List.isChain_append_cons_cons] at chained
      exact chained.2.1 isArguments
    obtain ⟨token, rfl, kind⟩ := exists_of_wordText? word
    have cut : token.WellCut := (forms (leaf token) (by simp)).1.self
    rw [nameText_append, nameText_cons_of_isNamePart (isNamePart_of_wordText? word)]
    simp [(cut.word kind).1]

/-- Of two places with type arguments, the one up to which a name is left and the one from which on
it is are the same if no part of the name stands between them. -/
theorem back_eq_of_nameText_eq {arguments arguments' : Tree} {front back front' back' : List Tree}
    (chained : parts.IsChain ArgumentsFollowWords) (forms : AreWellFormed parts)
    (isArguments : arguments.isNode .typeArguments = true)
    (isArguments' : arguments'.isNode .typeArguments = true) (tight : TightName front)
    (split : parts = front ++ arguments :: back) (split' : parts = front' ++ arguments' :: back')
    (same : nameText back = nameText back') : back = back' := by
  subst split
  rcases List.append_eq_append_iff.mp split' with ⟨more, -, rest⟩ | ⟨more, rfl, rest⟩
  · cases more with
    | nil => exact (List.cons.inj rest).2
    | cons part middle =>
        rw [List.cons_append] at rest
        obtain ⟨rfl, rfl⟩ := List.cons.inj rest
        have noName : nameText middle = [] := by
          rw [nameText_append_arguments isArguments'] at same
          simpa using same
        have noWord : arguments.wordText? = none := by
          obtain ⟨inner, rfl⟩ := exists_of_isNode isArguments
          rfl
        have inner : AreWellFormed middle := fun part member => forms part (by simp [member])
        have ahead := (List.isChain_append.mp chained).2.1
        exact absurd noName (nameText_ne_nil_between ahead inner noWord isArguments')
  · cases more with
    | nil => exact (List.cons.inj rest).2.symm
    | cons part middle =>
        obtain ⟨rfl, -⟩ := List.cons.inj rest
        have name := (tight arguments' (by simp)).1
        rw [isNode_arguments_of_isNamePart name] at isArguments'
        cases isArguments'

/-- A text of characters of names comes from words and dots with nothing in between. -/
theorem tightName_of_written (forms : AreWellFormed parts)
    (h : ∀ c ∈ Token.written (tokensOf parts), isNameChar c = true) : TightName parts := by
  have noStop : NameUntil '<' (Token.written (tokensOf parts)) :=
    fun c member => h c (List.takeWhile_subset _ member)
  rcases tightName_or_exists_arguments forms noStop with
    tight | ⟨front, arguments, back, rfl, -, isArguments, -⟩
  · exact tight
  · obtain ⟨form, -⟩ := forms arguments (by simp)
    obtain ⟨lead, middle, written, -⟩ := written_append_arguments form isArguments front back
    refine absurd (h '<' ?_) (by decide +kernel)
    rw [written]
    simp

/-- A type with type arguments at its end is recorded by its name if and only if it is plain. -/
theorem typeName_concat_eq_iff (forms : AreWellFormed (leaf token :: (parts ++ [last])))
    (word : token.kind = .word) (arguments : last.isNode .typeArguments = true) :
    (node kind (leaf token :: (parts ++ [last]))).typeName.toList =
        nameText (leaf token :: (parts ++ [last])) ↔
      arePlain (leaf token :: (parts ++ [last])) = true := by
  have name : (leaf token).isNamePart = true := by simp [isNamePart, word]
  have inner : AreWellFormed parts := fun part member =>
    forms part (List.mem_cons_of_mem _ (List.mem_append_left _ member))
  rw [arePlain_concat_iff name arguments, toList_typeName_concat arguments,
    nameText_cons_of_isNamePart name, nameText_append_arguments arguments]
  constructor
  · intro same
    have written : Token.written (tokensOf parts) = nameText parts := by
      simpa [nameText] using same
    refine tightName_of_written inner ?_
    rw [written]
    exact isNameChar_of_mem_nameText inner
  · intro tight
    rw [written_of_tightName tight]
    simp [nameText]

end Arguments

section Cut

/-- A text ends neither with a blank nor with `>`. -/
def EndsFirmly (cs : List Char) : Prop :=
  ∃ front c, cs = front ++ [c] ∧ c ≠ '>' ∧ isBlank c = false

theorem EndsFirmly.append_left {cs : List Char} (h : EndsFirmly cs) (before : List Char) :
    EndsFirmly (before ++ cs) := by
  obtain ⟨front, c, rfl, ends⟩ := h
  exact ⟨before ++ front, c, by rw [List.append_assoc], ends⟩

theorem EndsFirmly.written_concat (h : EndsFirmly token.text.toList) (front : List Token) :
    EndsFirmly (Token.written (front ++ [token])) := by
  rw [Token.written_append, Token.written_cons]
  simpa [Token.written] using (h.append_left token.lead.toList).append_left (Token.written front)

theorem endsFirmly_of_isSymbol {text : String} {c : Char} (symbol : token.isSymbol text = true)
    (single : text.toList = [c]) (notClosing : c ≠ '>') (notBlank : isBlank c = false) :
    EndsFirmly token.text.toList :=
  ⟨[], c, (Token.toList_of_isSymbol symbol).trans single, notClosing, notBlank⟩

theorem endsFirmly_of_named (cut : token.WellCut)
    (named : token.kind = .word ∨ token.isSymbol "." = true) : EndsFirmly token.text.toList := by
  rcases named with word | dot
  · obtain ⟨nonempty, -⟩ := cut.word word
    have last := Token.isNameChar_of_mem cut (.inl word) _ (List.getLast_mem nonempty)
    refine ⟨_, _, (List.dropLast_concat_getLast nonempty).symm, ?_,
      isBlank_eq_false_of_isNameChar last⟩
    intro closing
    rw [closing] at last
    exact absurd last (by decide +kernel)
  · exact endsFirmly_of_isSymbol dot rfl (by decide) (by decide)

/-- A part of a type other than type arguments ends neither with a blank nor with `>`. -/
theorem endsFirmly_of_part (form : first.Every HasForm) (part : first.IsTypePart)
    (other : first.isNode .typeArguments = false) : EndsFirmly (Token.written first.tokens) := by
  cases part with
  | name name => exact (endsFirmly_of_named form.self name).written_concat []
  | bracket bracket =>
      rcases bracket with opening | closing
      · exact (endsFirmly_of_isSymbol opening rfl (by decide) (by decide)).written_concat []
      · exact (endsFirmly_of_isSymbol closing rfl (by decide) (by decide)).written_concat []
  | annot parts =>
      obtain ⟨sign, more, tokens, isSign, rest⟩ : HasAnnotationForm (tokensOf parts) := form.self
      have whole : (node .annot parts).tokens = sign :: more := tokens
      rw [whole]
      rcases rest with names | ⟨inner, last, rfl, closing⟩
      · rcases more.eq_nil_or_concat with rfl | ⟨front, token, rfl⟩
        · exact (endsFirmly_of_isSymbol isSign rfl (by decide) (by decide)).written_concat []
        · rw [List.concat_eq_append] at whole names ⊢
          have cut : token.WellCut := form.of_mem_tokens token (by simp [whole])
          have named := names token (by simp)
          exact (endsFirmly_of_named cut named).written_concat (sign :: front)
      · exact (endsFirmly_of_isSymbol closing rfl (by decide) (by decide)).written_concat
          (sign :: inner)
  | arguments => cases other

variable (word : token.kind = .word) (forms : AreWellFormed (leaf token :: parts))
include word forms

theorem exists_first_char_of_word :
    ∃ c rest, token.text.toList = c :: rest ∧ c ≠ '<' ∧ isBlank c = false := by
  have cut : token.WellCut := (forms _ List.mem_cons_self).1.self
  obtain ⟨nonempty, -⟩ := cut.word word
  obtain ⟨c, rest, split⟩ := List.exists_cons_of_ne_nil nonempty
  have nameChar := Token.isNameChar_of_mem cut (.inl word) c (by simp [split])
  refine ⟨c, rest, split, ?_, isBlank_eq_false_of_isNameChar nameChar⟩
  rintro rfl
  exact absurd nameChar (by decide +kernel)

variable (other : parts.getLast?.any (isNode .typeArguments) = false)
include other

theorem endsFirmly_of_parts :
    EndsFirmly (token.text.toList ++ Token.written (tokensOf parts)) := by
  rcases parts.eq_nil_or_concat with rfl | ⟨rest, part, rfl⟩
  · obtain ⟨form, -⟩ := forms _ List.mem_cons_self
    simpa [tokensOf, Token.written] using endsFirmly_of_named form.self (.inl word)
  · rw [List.concat_eq_append] at forms other ⊢
    obtain ⟨form, kind⟩ := forms part (by simp)
    have noArguments : part.isNode .typeArguments = false := by simpa using other
    have last := endsFirmly_of_part form kind noArguments
    rw [tokensOf_append, Token.written_append, tokensOf, tokensOf, List.append_nil]
    exact (last.append_left _).append_left _

/-- Trimming does nothing to a type without annotations at its start and type arguments at its end,
since neither end is a blank and nothing is cut off there. -/
theorem trim_withoutArguments :
    trim (withoutArguments (token.text.toList ++ Token.written (tokensOf parts))) =
      withoutArguments (token.text.toList ++ Token.written (tokensOf parts)) := by
  obtain ⟨c, rest, starts, notOpening, notBlank⟩ := exists_first_char_of_word word forms
  obtain ⟨front, d, ends, notClosing, notBlank'⟩ := endsFirmly_of_parts word forms other
  refine trim_eq_self ?_ ?_
  · rw [starts, List.cons_append, head?_withoutArguments notOpening]
    exact notBlank
  · rw [ends, getLast?_withoutArguments notClosing]
    exact notBlank'

omit other

/-- A plain type has its name left when type arguments are cut out of it. -/
theorem withoutArguments_of_plain (plain : GoesOnPlainly parts) :
    withoutArguments (token.text.toList ++ Token.written (tokensOf parts)) =
      nameText (leaf token :: parts) := by
  have name : (leaf token).isNamePart = true := by simp [isNamePart, word]
  rcases plain with tight | @⟨front, back, arguments, tightFront, tightBack, isArguments, tight⟩
  · rw [written_of_tightName tight, ← nameText_cons_of_isNamePart name]
    exact withoutArguments_eq_self (not_mem_nameText forms (by decide +kernel))
  · obtain ⟨form, -⟩ := forms arguments (by simp)
    obtain ⟨lead, middle, written, glued⟩ := written_append_arguments form isArguments front back
    have text : token.text.toList ++ Token.written (tokensOf (front ++ arguments :: back)) =
        nameText (leaf token :: front) ++ '<' :: (middle ++ '>' :: nameText back) := by
      rw [written, glued tight, written_of_tightName tightFront, written_of_tightName tightBack,
        nameText_cons_of_isNamePart name, List.nil_append, List.append_assoc]
    have before : AreWellFormed (leaf token :: front) := fun part member =>
      forms part (List.mem_append_left (arguments :: back) member)
    have behind : AreWellFormed back := fun part member => forms part (by simp [member])
    rw [text, withoutArguments_append (not_mem_nameText before (by decide +kernel))
      (not_mem_nameText behind (by decide +kernel)), ← List.cons_append,
      nameText_append_arguments isArguments]

/-- If a type has its name left when type arguments are cut out of it, it is plain. -/
theorem plain_of_withoutArguments (fits : Fits (leaf token :: parts))
    (same : withoutArguments (token.text.toList ++ Token.written (tokensOf parts)) =
      nameText (leaf token :: parts)) : GoesOnPlainly parts := by
  have cut : token.WellCut := (forms _ List.mem_cons_self).1.self
  have inner : AreWellFormed parts := fun part member => forms part (List.mem_cons_of_mem _ member)
  have name : (leaf token).isNamePart = true := by simp [isNamePart, word]
  have chars : ∀ c ∈ withoutArguments (token.text.toList ++ Token.written (tokensOf parts)),
      isNameChar c = true := same ▸ isNameChar_of_mem_nameText forms
  obtain ⟨left, right⟩ := nameUntil_of_withoutArguments chars
  rw [List.reverse_append] at right
  have leftParts := left.of_append fun opening =>
    absurd (Token.isNameChar_of_mem cut (.inl word) _ opening) (by decide +kernel)
  rcases tightName_or_exists_arguments inner leftParts with
    tight | ⟨front, arguments, back, split, tightFront, isArguments, tight⟩
  · exact .name tight
  · suffices behind : TightName back by
      rw [split]
      exact .around tightFront behind isArguments tight
    rcases tightName_or_exists_arguments_reverse inner right with
      whole | ⟨front', arguments', back', split', tightBack, isArguments'⟩
    · -- Type arguments are no part of a name.
      have member : arguments ∈ parts := by simp [split]
      rw [isNode_arguments_of_isNamePart (whole arguments member).1] at isArguments
      cases isArguments
    · obtain ⟨form, -⟩ := inner arguments (by simp [split])
      obtain ⟨lead, middle, written, glued⟩ :=
        written_append_arguments form isArguments front back
      have opens : token.text.toList ++ Token.written (tokensOf parts) =
          nameText (leaf token :: front) ++
            '<' :: (middle ++ '>' :: Token.written (tokensOf back)) := by
        rw [split, written, glued tight, written_of_tightName tightFront,
          nameText_cons_of_isNamePart name, List.nil_append, List.append_assoc]
      obtain ⟨form', -⟩ := inner arguments' (by simp [split'])
      obtain ⟨lead', middle', written', -⟩ :=
        written_append_arguments form' isArguments' front' back'
      have closes : token.text.toList ++ Token.written (tokensOf parts) =
          (token.text.toList ++ (Token.written (tokensOf front') ++ (lead' ++ '<' :: middle'))) ++
            '>' :: nameText back' := by
        rw [split', written', written_of_tightName tightBack]
        simp
      have before : AreWellFormed (leaf token :: front) := fun part member =>
        forms part (split ▸ List.mem_append_left (arguments :: back) member)
      have behind : AreWellFormed back' := fun part member => inner part (by simp [split', member])
      have kept := withoutArguments_eq_append opens closes
        (not_mem_nameText before (by decide +kernel)) (not_mem_nameText behind (by decide +kernel))
        chars
      -- What is left is the whole name, so no part of it stands between the two places.
      rw [same, split, ← List.cons_append, nameText_append_arguments isArguments,
        List.append_cancel_left_eq] at kept
      have backs : back = back' := back_eq_of_nameText_eq fits.chained.tail inner isArguments
        isArguments' tightFront split split' kept
      rwa [backs]

include other

/-- A type without annotations at its start and type arguments at its end is recorded by its name if
and only if it is plain. -/
theorem typeName_cons_eq_iff (fits : Fits (leaf token :: parts)) :
    (node kind (leaf token :: parts)).typeName.toList = nameText (leaf token :: parts) ↔
      arePlain (leaf token :: parts) = true := by
  have name : (leaf token).isNamePart = true := by simp [isNamePart, word]
  rw [arePlain_cons_iff name other, toList_typeName_cons rfl rfl (.inr other), List.nil_append,
    trim_withoutArguments word forms other]
  exact ⟨plain_of_withoutArguments word forms fits, withoutArguments_of_plain word forms⟩

end Cut

end Recorded

/-- The name that is recorded for a type is its words with dots in between if and only if the type
is plain. -/
theorem typeName_eq_erasedName_iff {type : Tree} (h : type.Every HasForm)
    (kind : type.isNode .type = true) :
    type.typeName = type.erasedName ↔ type.isPlain = true := by
  obtain ⟨parts, rfl⟩ := exists_of_isNode kind
  have form : IsTypeForm parts := h.self
  have forms : AreWellFormed parts := fun part member =>
    ⟨h.parts part member, form.each part member⟩
  have name : (node .type parts).erasedName.toList = nameText parts := form.name.symm
  rw [← String.toList_inj, name, isPlain, children]
  obtain ⟨first, rest, rfl, annot | word⟩ := form.first
  · refine iff_of_false (typeName_ne_of_annot forms annot) ?_
    intro plain
    obtain ⟨inner, rfl⟩ := exists_of_isNode annot
    rcases (arePlain_iff.mp plain).1 _ List.mem_cons_self with named | arguments
    · cases named
    · cases arguments
  · obtain ⟨token, rfl, own⟩ := exists_of_wordText? word
    cases ends : rest.getLast?.any (isNode .typeArguments) with
    | false => exact typeName_cons_eq_iff own forms ends form.toFits
    | true =>
        cases found : rest.getLast? with
        | none => simp [found] at ends
        | some last =>
            obtain ⟨front, rfl⟩ := List.getLast?_eq_some_iff.mp found
            exact typeName_concat_eq_iff forms own (by simpa [found] using ends)

end Tree

end JavadocAudit.Source

import JavadocAudit.Proofs.Source.Declarations
import JavadocAudit.Proofs.Source.TypeParts
import JavadocAudit.Proofs.Text.Blank

/-!
# How the name of a type is written

The text of a type shows whether there is anything in it but words, dots and type arguments. What
stands between tokens starts and ends with characters that no name has, and so do annotations and
brackets. Hence a text that is part of a name up to its first `<`, read from the left, comes from
words and dots with nothing in between, and what follows is the end or type arguments. Read from the
right, the same holds of a text that is part of a name behind its last `>`.

These are the pieces that are left when everything between the first `<` and the last `>` is cut out
of a text.
-/

namespace JavadocAudit.Source

open Text

namespace Token

/-- Tokens as they are written, with what stands before each of them. -/
def written (tokens : List Token) : List Char :=
  tokens.flatMap fun token => token.lead.toList ++ token.text.toList

theorem written_append (front back : List Token) :
    written (front ++ back) = written front ++ written back :=
  List.flatMap_append

theorem written_cons (token : Token) (rest : List Token) :
    written (token :: rest) = token.lead.toList ++ (token.text.toList ++ written rest) := by
  rw [written, List.flatMap_cons, List.append_assoc, written]

theorem reverse_written_concat (front : List Token) (token : Token) :
    (written (front ++ [token])).reverse =
      token.text.toList.reverse ++ (token.lead.toList.reverse ++ (written front).reverse) := by
  simp [written]

theorem toList_textOf (first : Token) (rest : List Token) :
    (textOf (first :: rest)).toList = first.text.toList ++ written rest := by
  have run (text : String) : (rest.foldl (fun text token => text ++ token.lead ++ token.text)
      text).toList = text.toList ++ written rest := by
    induction rest generalizing text with
    | nil => simp [written]
    | cons token rest ih =>
        rw [List.foldl_cons, ih]
        simp [written]
  exact run first.text

/-- The text of a token with a given symbol. -/
theorem toList_of_isSymbol {token : Token} {text : String} (h : token.isSymbol text = true) :
    token.text.toList = text.toList := by
  simp only [isSymbol, Bool.and_eq_true, decide_eq_true_eq] at h
  rw [h.2]

theorem isNameChar_of_mem {token : Token} (cut : token.WellCut)
    (named : token.kind = .word ∨ token.isSymbol "." = true) :
    ∀ c ∈ token.text.toList, isNameChar c = true := by
  intro c member
  rcases named with word | dot
  · rw [isNameChar, (cut.word word).2 c member, Bool.true_or]
  · rw [toList_of_isSymbol dot] at member
    obtain rfl : c = '.' := by simpa using member
    rfl

end Token

section Scanning

/-- The text is part of a name up to a given character. -/
def NameUntil (stop : Char) (cs : List Char) : Prop :=
  ∀ c ∈ cs.takeWhile (· ≠ stop), isNameChar c = true

variable {stop c : Char} {front back cs : List Char}

theorem forall_ne_of_not_mem (h : stop ∉ cs) : ∀ c ∈ cs, decide (c ≠ stop) = true := by
  intro c member
  exact decide_eq_true fun same => h (same ▸ member)

theorem NameUntil.of_append (h : NameUntil stop (front ++ back)) (noStop : stop ∉ front) :
    NameUntil stop back := by
  intro c member
  refine h c ?_
  rw [List.takeWhile_append_of_pos (forall_ne_of_not_mem noStop)]
  exact List.mem_append_right _ member

theorem NameUntil.head (h : NameUntil stop (c :: cs)) (other : c ≠ stop) : isNameChar c = true := by
  refine h c ?_
  rw [List.takeWhile_cons_of_pos (by simpa using other)]
  exact List.mem_cons_self

/-- Nothing stands between the tokens of a name. -/
theorem NameUntil.eq_nil (h : NameUntil stop (front ++ back))
    (edge : front.head?.all Token.isEdge = true) (noEdge : Token.isEdge stop = false) :
    front = [] := by
  cases front with
  | nil => rfl
  | cons c rest =>
      have isEdge : Token.isEdge c = true := edge
      have other : c ≠ stop := by
        rintro rfl
        rw [noEdge] at isEdge
        cases isEdge
      have name := NameUntil.head h other
      rw [Token.isNameChar_eq_false_of_isEdge isEdge] at name
      cases name

/-- A text that starts with a character that no name has, unless it is the one at which the name
ends, is not part of a name. -/
theorem not_nameUntil_cons (other : c ≠ stop) (noName : isNameChar c = false) :
    ¬ NameUntil stop (c :: cs) := by
  intro h
  rw [h.head other] at noName
  cases noName

section Tokens

variable {token : Token} (cut : token.WellCut)
  (named : token.kind = .word ∨ token.isSymbol "." = true)
include cut named

/-- A word or a dot in a name has nothing before it, and the name goes on behind it. -/
theorem NameUntil.step (h : NameUntil '<' (token.lead.toList ++ (token.text.toList ++ cs))) :
    token.lead.toList = [] ∧ NameUntil '<' cs := by
  have glued := h.eq_nil cut.leadStart (by decide)
  rw [glued, List.nil_append] at h
  refine ⟨glued, h.of_append fun stop => ?_⟩
  exact absurd (Token.isNameChar_of_mem cut named _ stop) (by decide +kernel)

/-- The same from right to left: the name goes on before the word or dot. -/
theorem NameUntil.stepBack
    (h : NameUntil '>' (token.text.toList.reverse ++ (token.lead.toList.reverse ++ cs))) :
    token.lead.toList = [] ∧ NameUntil '>' cs := by
  have before := h.of_append fun stop =>
    absurd (Token.isNameChar_of_mem cut named _ (List.mem_reverse.mp stop)) (by decide +kernel)
  have glued := before.eq_nil (by simpa using cut.leadEnd) (by decide)
  rw [glued, List.nil_append] at before
  exact ⟨List.reverse_eq_nil_iff.mp glued, before⟩

end Tokens

/-- Words and dots at the end of a name are passed from right to left. -/
theorem NameUntil.of_wordsAndDots {tokens : List Token} (named : Tree.WordsAndDots tokens)
    (cut : ∀ token ∈ tokens, token.WellCut)
    (h : NameUntil '>' ((Token.written tokens).reverse ++ cs)) : NameUntil '>' cs := by
  induction tokens using List.reverseRecOn generalizing cs with
  | nil => exact h
  | append_singleton front token ih =>
      obtain ⟨namedFront, namedLast⟩ := List.forall_mem_append.mp named
      obtain ⟨cutFront, cutLast⟩ := List.forall_mem_append.mp cut
      rw [Token.reverse_written_concat, List.append_assoc, List.append_assoc] at h
      obtain ⟨-, goesOn⟩ := NameUntil.stepBack (cutLast token List.mem_cons_self)
        (namedLast token List.mem_cons_self) h
      exact ih namedFront cutFront goesOn

end Scanning

namespace Tree

section Parts

/-- Nothing stands between a part and what comes before it. -/
def isTight (part : Tree) : Bool := part.tokens.head?.all Token.isGlued

/-- Words and dots with nothing before any of them. -/
def TightName (parts : List Tree) : Prop :=
  ∀ part ∈ parts, part.isNamePart = true ∧ part.isTight = true

variable {part : Tree} {parts : List Tree}

theorem TightName.append {front back : List Tree} (hf : TightName front) (hb : TightName back) :
    TightName (front ++ back) :=
  List.forall_mem_append.mpr ⟨hf, hb⟩

/-- A word or a dot with nothing before it. -/
theorem tightName_singleton {token : Token} (named : token.kind = .word ∨ token.isSymbol "." = true)
    (glued : token.lead.toList = []) : TightName [leaf token] := by
  refine List.forall_mem_singleton.mpr ⟨by simpa [isNamePart] using named, ?_⟩
  simpa [isTight, tokens, Token.isGlued] using glued

theorem written_of_tightName (h : TightName parts) :
    Token.written (tokensOf parts) = nameText parts := by
  induction parts with
  | nil => rfl
  | cons part rest ih =>
      obtain ⟨⟨name, tight⟩, later⟩ := List.forall_mem_cons.mp h
      cases part with
      | leaf token =>
          have glued : token.lead = "" := by
            simpa [isTight, tokens, Token.isGlued] using tight
          have single : nameText [leaf token] = token.text.toList := by
            simp [nameText, name, Tree.text, tokens, Token.textOf]
          rw [← List.singleton_append, nameText_append, ← ih later, single]
          simp [tokensOf, tokens, Token.written_cons, glued]
      | remark | node => cases name

section OnePart

variable {cs : List Char} (form : part.Every HasForm) (kind : part.IsTypePart)
include form kind

/-- A part at the start of a name, up to `<`: a word or a dot, or type arguments. -/
theorem tight_of_nameUntil (h : NameUntil '<' (Token.written part.tokens ++ cs)) :
    (TightName [part] ∧ NameUntil '<' cs) ∨
      (part.isNode .typeArguments = true ∧ part.isTight = true) := by
  -- Nothing stands before the first token, and its text does not start like anything else.
  have first {token : Token} {more : List Token} (tokens : part.tokens = token :: more) :
      token.lead.toList = [] ∧
        NameUntil '<' (token.text.toList ++ (Token.written more ++ cs)) := by
    have cut : token.WellCut := form.of_mem_tokens token (by rw [tokens]; exact List.mem_cons_self)
    rw [tokens, Token.written_cons, List.append_assoc, List.append_assoc] at h
    have glued := h.eq_nil cut.leadStart (by decide)
    rw [glued, List.nil_append] at h
    exact ⟨glued, h⟩
  have other {token : Token} {more : List Token} {text : String} {c : Char}
      (tokens : part.tokens = token :: more) (symbol : token.isSymbol text = true)
      (single : text.toList = [c]) (notStop : c ≠ '<') (noName : isNameChar c = false) : False := by
    have starts := (first tokens).2
    rw [Token.toList_of_isSymbol symbol, single, List.singleton_append] at starts
    exact not_nameUntil_cons notStop noName starts
  cases kind with
  | @name token named =>
      rw [tokens, Token.written_cons, List.append_assoc, List.append_assoc] at h
      obtain ⟨glued, goesOn⟩ := NameUntil.step form.self named h
      exact .inl ⟨tightName_singleton named glued, goesOn⟩
  | bracket bracket =>
      rcases bracket with opening | closing
      · exact (other rfl opening rfl (by decide) (by decide +kernel)).elim
      · exact (other rfl closing rfl (by decide) (by decide +kernel)).elim
  | annot parts =>
      obtain ⟨sign, more, tokens, isSign, -⟩ : HasAnnotationForm (tokensOf parts) := form.self
      exact (other tokens isSign rfl (by decide) (by decide +kernel)).elim
  | arguments parts =>
      obtain ⟨opening, inner, closing, tokens, -⟩ : InAngles (tokensOf parts) := form.self
      refine .inr ⟨rfl, ?_⟩
      have glued := (first tokens).1
      simpa [isTight, Tree.tokens, tokens, Token.isGlued] using glued

/-- A part at the end of a name, behind `>`: a word or a dot, or type arguments. -/
theorem tight_of_nameUntil_reverse
    (h : NameUntil '>' ((Token.written part.tokens).reverse ++ cs)) :
    (TightName [part] ∧ NameUntil '>' cs) ∨ part.isNode .typeArguments = true := by
  -- The last token does not end like anything else.
  have other {front : List Token} {token : Token} {text : String} {c : Char}
      {cs : List Char} (h : NameUntil '>' ((Token.written (front ++ [token])).reverse ++ cs))
      (symbol : token.isSymbol text = true)
      (single : text.toList = [c]) (notStop : c ≠ '>') (noName : isNameChar c = false) : False := by
    rw [Token.reverse_written_concat, Token.toList_of_isSymbol symbol, single,
      List.reverse_singleton, List.append_assoc, List.singleton_append] at h
    exact not_nameUntil_cons notStop noName h
  cases kind with
  | @name token named =>
      have whole : NameUntil '>' ((Token.written ([] ++ [token])).reverse ++ cs) := h
      rw [Token.reverse_written_concat, List.append_assoc, List.append_assoc] at whole
      obtain ⟨glued, goesOn⟩ := NameUntil.stepBack form.self named whole
      exact .inl ⟨tightName_singleton named glued, goesOn⟩
  | @bracket token bracket =>
      have whole : NameUntil '>' ((Token.written ([] ++ [token])).reverse ++ cs) := h
      rcases bracket with opening | closing
      · exact (other whole opening rfl (by decide) (by decide +kernel)).elim
      · exact (other whole closing rfl (by decide) (by decide +kernel)).elim
  | annot parts =>
      obtain ⟨sign, more, tokens, isSign, ends⟩ : HasAnnotationForm (tokensOf parts) := form.self
      have cut : ∀ token ∈ sign :: more, token.WellCut := by
        rw [← tokens]
        exact form.of_mem_tokens
      rw [Tree.tokens, tokens] at h
      rcases ends with name | ⟨inner, last, rfl, closing⟩
      · have split : Token.written (sign :: more) =
            Token.written ([] ++ [sign]) ++ Token.written more := Token.written_append [sign] more
        rw [split, List.reverse_append, List.append_assoc] at h
        have before := h.of_wordsAndDots name (List.forall_mem_cons.mp cut).2
        exact (other before isSign rfl (by decide) (by decide +kernel)).elim
      · rw [← List.cons_append] at h
        exact (other h closing rfl (by decide) (by decide +kernel)).elim
  | arguments parts => exact .inr rfl

end OnePart

/-- Parts of types of the right form. -/
def AreWellFormed (parts : List Tree) : Prop :=
  ∀ part ∈ parts, part.Every HasForm ∧ part.IsTypePart

/-- Read from the left, a text that is a name up to its first `<` comes from words and dots with
nothing in between, up to the end or up to type arguments. -/
theorem tightName_or_exists_arguments (forms : AreWellFormed parts)
    (h : NameUntil '<' (Token.written (tokensOf parts))) :
    TightName parts ∨ ∃ front arguments back, parts = front ++ arguments :: back ∧
      TightName front ∧ arguments.isNode .typeArguments = true ∧ arguments.isTight = true := by
  induction parts with
  | nil => exact .inl (List.forall_mem_nil _)
  | cons part rest ih =>
      obtain ⟨⟨form, kind⟩, later⟩ := List.forall_mem_cons.mp forms
      rw [tokensOf, Token.written_append] at h
      rcases tight_of_nameUntil form kind h with ⟨first, goesOn⟩ | arguments
      · rcases ih later goesOn with tight | ⟨front, arguments, back, rfl, tight, found⟩
        · exact .inl (first.append tight)
        · exact .inr ⟨part :: front, arguments, back, rfl, first.append tight, found⟩
      · exact .inr ⟨[], part, rest, rfl, List.forall_mem_nil _, arguments⟩

/-- Read from the right, a text that is a name behind its last `>` comes from words and dots with
nothing in between, from the start or from type arguments on. -/
theorem tightName_or_exists_arguments_reverse (forms : AreWellFormed parts) {cs : List Char}
    (h : NameUntil '>' ((Token.written (tokensOf parts)).reverse ++ cs)) :
    TightName parts ∨ ∃ front arguments back, parts = front ++ arguments :: back ∧
      TightName back ∧ arguments.isNode .typeArguments = true := by
  induction parts using List.reverseRecOn with
  | nil => exact .inl (List.forall_mem_nil _)
  | append_singleton rest part ih =>
      obtain ⟨earlier, last⟩ := List.forall_mem_append.mp forms
      obtain ⟨form, kind⟩ := List.forall_mem_singleton.mp last
      have single : tokensOf [part] = part.tokens := by simp [tokensOf]
      rw [tokensOf_append, single, Token.written_append, List.reverse_append,
        List.append_assoc] at h
      rcases tight_of_nameUntil_reverse form kind h with ⟨last, goesOn⟩ | arguments
      · rcases ih earlier goesOn with tight | ⟨front, arguments, back, rfl, tight, found⟩
        · exact .inl (tight.append last)
        · exact .inr ⟨front, arguments, back ++ [part], by simp, tight.append last, found⟩
      · exact .inr ⟨rest, part, [], rfl, List.forall_mem_nil _, arguments⟩

end Parts

section Cutting

variable {cs front middle back : List Char} {c : Char}

theorem withoutArguments_cases (cs : List Char) :
    withoutArguments cs = cs ∨ withoutArguments cs =
      cs.takeWhile (· ≠ '<') ++ (cs.reverse.takeWhile (· ≠ '>')).reverse := by
  unfold withoutArguments
  simp only
  split
  · exact .inr rfl
  · exact .inl rfl

theorem takeWhile_ne_append (h : c ∉ front) (back : List Char) :
    (front ++ c :: back).takeWhile (· ≠ c) = front := by
  rw [List.takeWhile_append_of_pos (forall_ne_of_not_mem h),
    List.takeWhile_cons_of_neg (by simp), List.append_nil]

theorem withoutArguments_eq_self (h : '<' ∉ cs) : withoutArguments cs = cs := by
  rw [withoutArguments, List.takeWhile_eq_self_iff.mpr (forall_ne_of_not_mem h)]
  exact if_neg (by omega)

theorem takeWhile_reverse_ne_append (h : c ∉ back) (front : List Char) :
    ((front ++ c :: back).reverse.takeWhile (· ≠ c)).reverse = back := by
  have turned : (front ++ c :: back).reverse = back.reverse ++ c :: front.reverse := by simp
  rw [turned, takeWhile_ne_append (by simpa using h), List.reverse_reverse]

theorem withoutArguments_append (noOpening : '<' ∉ front) (noClosing : '>' ∉ back) :
    withoutArguments (front ++ '<' :: (middle ++ '>' :: back)) = front ++ back := by
  have behind := takeWhile_reverse_ne_append noClosing (front ++ '<' :: middle)
  rw [List.append_assoc, List.cons_append] at behind
  simp only [withoutArguments, behind, takeWhile_ne_append noOpening]
  rw [if_pos]
  simp only [List.length_append, List.length_cons]
  omega

/-- If a name is left of a text with `<` and `>`, it is what stands before the first `<` and behind
the last `>`. -/
theorem withoutArguments_eq_append {more more' : List Char} (opens : cs = front ++ '<' :: more)
    (closes : cs = more' ++ '>' :: back) (noOpening : '<' ∉ front) (noClosing : '>' ∉ back)
    (h : ∀ c ∈ withoutArguments cs, isNameChar c = true) :
    withoutArguments cs = front ++ back := by
  rcases withoutArguments_cases cs with same | cut
  · have opening : '<' ∈ withoutArguments cs := by
      rw [same, opens]
      simp
    exact absurd (h '<' opening) (by decide +kernel)
  · have before : cs.takeWhile (· ≠ '<') = front := opens ▸ takeWhile_ne_append noOpening more
    have behind : (cs.reverse.takeWhile (· ≠ '>')).reverse = back :=
      closes ▸ takeWhile_reverse_ne_append noClosing more'
    rw [cut, before, behind]

/-- Nothing is cut off a text that does not start with `<`. -/
theorem head?_withoutArguments (other : c ≠ '<') (rest : List Char) :
    (withoutArguments (c :: rest)).head? = some c := by
  rcases withoutArguments_cases (c :: rest) with same | cut
  · rw [same, List.head?_cons]
  · rw [cut, List.takeWhile_cons_of_pos (by simpa using other)]
    rfl

/-- Nothing is cut off a text that does not end with `>`. -/
theorem getLast?_withoutArguments (other : c ≠ '>') (front : List Char) :
    (withoutArguments (front ++ [c])).getLast? = some c := by
  rcases withoutArguments_cases (front ++ [c]) with same | cut
  · rw [same, List.getLast?_concat]
  · rw [cut, List.reverse_append, List.reverse_singleton, List.singleton_append,
      List.takeWhile_cons_of_pos (by simpa using other), List.reverse_cons, ← List.append_assoc,
      List.getLast?_concat]

/-- If a name is left, the text is a name up to its first `<` and behind its last `>`. -/
theorem nameUntil_of_withoutArguments (h : ∀ c ∈ withoutArguments cs, isNameChar c = true) :
    NameUntil '<' cs ∧ NameUntil '>' cs.reverse := by
  rcases withoutArguments_cases cs with same | cut
  · rw [same] at h
    refine ⟨fun c member => h c (List.takeWhile_subset _ member), fun c member => ?_⟩
    exact h c (List.mem_reverse.mp (List.takeWhile_subset _ member))
  · rw [cut] at h
    refine ⟨fun c member => h c (List.mem_append_left _ member), fun c member => ?_⟩
    exact h c (List.mem_append_right _ (List.mem_reverse.mpr member))

end Cutting

end Tree

end JavadocAudit.Source

import JavadocAudit.Proofs.Source.Naming
import JavadocAudit.Proofs.Source.Spacing
import Mathlib.Data.List.Chain

/-!
# The parts of a type

A type is written as words with dots in between. Annotations may stand before a word and type
arguments behind it, and brackets at the end. What a rule can read is put together from what its
parts can read, so the form of a type is proved along the rules: every part is of one of these
kinds, type arguments follow a word, and the words and dots alone are the name of the type.

The same is done for the other constructs that a clause with types stands in. All of this holds of
every part of the trees of a source text.
-/

namespace JavadocAudit.Source

namespace Tree

def wordText? : Tree → Option String
  | leaf token => if token.kind = .word then some token.text else none
  | _ => none

def isNamePart : Tree → Bool
  | leaf token => token.kind = .word || token.isSymbol "."
  | _ => false

/-- The name of a type: its words, with dots in between. -/
def erasedName (type : Tree) : String := ".".intercalate (type.children.filterMap wordText?)

/-- The text of the words and dots among parts. -/
def nameText (parts : List Tree) : List Char :=
  (parts.filter isNamePart).flatMap fun part => part.text.toList

/-- What can be a part of a type. -/
inductive IsTypePart : Tree → Prop where
  | name {token : Token} (named : token.kind = .word ∨ token.isSymbol "." = true) :
      IsTypePart (leaf token)
  | bracket {token : Token} (bracket : token.isSymbol "[" = true ∨ token.isSymbol "]" = true) :
      IsTypePart (leaf token)
  | annot (parts : List Tree) : IsTypePart (node .annot parts)
  | arguments (parts : List Tree) : IsTypePart (node .typeArguments parts)

/-- Type arguments stand behind a word. -/
def ArgumentsFollowWords (part next : Tree) : Prop :=
  next.isNode .typeArguments = true → part.wordText?.isSome = true

/-- Parts of types that do not start with type arguments and have none but behind words. -/
structure Fits (parts : List Tree) : Prop where
  each : ∀ part ∈ parts, part.IsTypePart
  chained : parts.IsChain ArgumentsFollowWords
  start : ∀ first, parts.head? = some first → first.isNode .typeArguments = false

structure IsTypeForm (parts : List Tree) : Prop extends Fits parts where
  name : nameText parts = (".".intercalate (parts.filterMap wordText?)).toList
  first : ∃ first rest, parts = first :: rest ∧
    (first.isNode .annot = true ∨ first.wordText?.isSome = true)

/-- Tokens between angle brackets. -/
def InAngles (tokens : List Token) : Prop :=
  ∃ first inner last, tokens = first :: (inner ++ [last]) ∧ first.isSymbol "<" = true ∧
    last.isSymbol ">" = true

/-- Tokens that make up a qualified name. -/
def WordsAndDots (tokens : List Token) : Prop :=
  ∀ token ∈ tokens, token.kind = .word ∨ token.isSymbol "." = true

/-- The tokens of an annotation: an at sign, and a name alone or something that ends with a
parenthesis. -/
def HasAnnotationForm (tokens : List Token) : Prop :=
  ∃ sign more, tokens = sign :: more ∧ sign.isSymbol "@" = true ∧
    (WordsAndDots more ∨ ∃ inner last, more = inner ++ [last] ∧ last.isSymbol ")" = true)

def TokensAndTypes (trees : List Tree) : Prop :=
  ∀ part ∈ trees, (∃ token, part = leaf token) ∨ part.isNode .type = true

/-- The form of a part of a source text, as far as types in clauses are concerned. -/
def HasForm : Tree → Prop
  | leaf token => token.WellCut
  | remark _ => False
  | node .type parts => IsTypeForm parts
  | node .typeArguments parts => InAngles (tokensOf parts)
  | node .annot parts => HasAnnotationForm (tokensOf parts)
  | node .throws parts => ∃ keyword more, parts = leaf keyword :: more ∧ TokensAndTypes more
  | node .superclass parts =>
    ∃ token type, parts = [leaf token, type] ∧ type.isNode .type = true
  | node .method parts | node .constructor parts | node .typeDeclaration parts =>
    ∃ part ∈ parts, part.isNode .name = true
  | node _ _ => True

section Lists

theorem nameText_append (front back : List Tree) :
    nameText (front ++ back) = nameText front ++ nameText back := by
  rw [nameText, List.filter_append, List.flatMap_append, nameText, nameText]

theorem nameText_eq_nil {parts : List Tree} (h : ∀ part ∈ parts, part.isNamePart = false) :
    nameText parts = [] := by
  rw [nameText, List.filter_eq_nil_iff.mpr fun part member => by simp [h part member],
    List.flatMap_nil]

theorem tokensOf_append (front back : List Tree) :
    tokensOf (front ++ back) = tokensOf front ++ tokensOf back := by
  induction front with
  | nil => rfl
  | cons tree rest ih => rw [List.cons_append, tokensOf, tokensOf, ih, List.append_assoc]

theorem exists_of_isNode {part : Tree} {kind : Kind} (h : part.isNode kind = true) :
    ∃ inner, part = node kind inner := by
  cases part with
  | leaf | remark => cases h
  | node own inner =>
      obtain rfl : own = kind := by simpa [isNode] using h
      exact ⟨inner, rfl⟩

theorem exists_of_wordText? {part : Tree} (h : part.wordText?.isSome = true) :
    ∃ token, part = leaf token ∧ token.kind = .word := by
  cases part with
  | leaf token =>
      simp only [wordText?] at h
      split at h
      · next word => exact ⟨token, rfl, word⟩
      · cases h
  | remark | node => cases h

theorem isNamePart_of_wordText? {part : Tree} (h : part.wordText?.isSome = true) :
    part.isNamePart = true := by
  obtain ⟨token, rfl, word⟩ := exists_of_wordText? h
  simp [isNamePart, word]

end Lists

namespace Fits

variable {front back : List Tree}

theorem nil : Fits [] := ⟨by simp, .nil, by simp⟩

theorem append (hf : Fits front) (hb : Fits back) : Fits (front ++ back) where
  each part member := (List.mem_append.mp member).elim (hf.each part) (hb.each part)
  chained := by
    refine hf.chained.append hb.chained ?_
    intro last _ first starts arguments
    rw [hb.start first (Option.mem_def.mp starts)] at arguments
    cases arguments
  start first starts := by
    cases front with
    | nil => exact hb.start first starts
    | cons part rest => exact hf.start first starts

theorem singleton {part : Tree} (h : part.IsTypePart)
    (other : part.isNode .typeArguments = false) : Fits [part] where
  each := by simpa using h
  chained := .singleton _
  start := by simpa using other

/-- A word with its type arguments. -/
theorem word_arguments {token : Token} (word : token.kind = .word) (inner : List Tree) :
    Fits [leaf token, node .typeArguments inner] where
  each := by simpa using ⟨.name (.inl word), .arguments inner⟩
  chained := by simp [ArgumentsFollowWords, wordText?, word]
  start first starts := by
    obtain rfl := Option.some.inj starts
    rfl

end Fits

section Names

variable {parts front back : List Tree}

/-- Parts of types that add nothing to a name. -/
structure IsSilent (parts : List Tree) : Prop extends Fits parts where
  silent : ∀ part ∈ parts, part.isNamePart = false

theorem IsSilent.nil : IsSilent [] := ⟨.nil, by simp⟩

theorem IsSilent.append (hf : IsSilent front) (hb : IsSilent back) : IsSilent (front ++ back) :=
  ⟨hf.toFits.append hb.toFits, fun part member =>
    (List.mem_append.mp member).elim (hf.silent part) (hb.silent part)⟩

theorem IsSilent.filterMap_wordText? (h : IsSilent parts) : parts.filterMap wordText? = [] := by
  refine List.filterMap_eq_nil_iff.mpr fun part member => ?_
  have silent := h.silent part member
  by_contra word
  rw [isNamePart_of_wordText? (Option.isSome_iff_ne_none.mpr word)] at silent
  cases silent

theorem IsSilent.of_annots (h : ∀ part ∈ parts, part.isNode .annot = true) : IsSilent parts := by
  induction parts with
  | nil => exact .nil
  | cons part rest ih =>
      obtain ⟨first, later⟩ := List.forall_mem_cons.mp h
      obtain ⟨inner, rfl⟩ := exists_of_isNode first
      have single : IsSilent [node .annot inner] :=
        ⟨.singleton (.annot inner) rfl, by simp [isNamePart]⟩
      exact single.append (ih later)

/-- Parts of types that go on a name: every word has a dot before it. -/
structure Continues (parts : List Tree) : Prop extends Fits parts where
  name : nameText parts = (parts.filterMap wordText?).flatMap fun word => '.' :: word.toList

theorem IsSilent.continues (h : IsSilent parts) : Continues parts :=
  ⟨h.toFits, by rw [nameText_eq_nil h.silent, h.filterMap_wordText?]; rfl⟩

theorem Continues.append (hf : Continues front) (hb : Continues back) : Continues (front ++ back) :=
  ⟨hf.toFits.append hb.toFits, by
    rw [nameText_append, List.filterMap_append, List.flatMap_append, hf.name, hb.name]⟩

structure StartsName (parts : List Tree) : Prop extends Fits parts where
  name : ∃ word words, parts.filterMap wordText? = word :: words ∧
    nameText parts = word.toList ++ words.flatMap fun word => '.' :: word.toList
  first : ∃ first rest, parts = first :: rest ∧ first.wordText?.isSome = true

theorem StartsName.append (hf : StartsName front) (hb : Continues back) :
    StartsName (front ++ back) where
  toFits := hf.toFits.append hb.toFits
  name := by
    obtain ⟨word, words, found, name⟩ := hf.name
    refine ⟨word, words ++ back.filterMap wordText?, ?_, ?_⟩
    · rw [List.filterMap_append, found, List.cons_append]
    · rw [nameText_append, name, hb.name, List.flatMap_append, List.append_assoc]
  first := by
    obtain ⟨first, rest, rfl, word⟩ := hf.first
    exact ⟨first, rest ++ back, rfl, word⟩

/-- Behind a dot a name is gone on by another name, with annotations before it. -/
theorem StartsName.continues {token : Token} (dot : token.isSymbol "." = true)
    (silent : IsSilent front) (starts : StartsName back) :
    Continues (leaf token :: (front ++ back)) where
  toFits := (Fits.singleton (.name (.inr dot)) rfl).append (silent.toFits.append starts.toFits)
  name := by
    obtain ⟨symbol, text⟩ : token.kind = .symbol ∧ token.text = "." := by
      simpa [Token.isSymbol] using dot
    obtain ⟨word, words, found, name⟩ := starts.name
    have noWord : (leaf token).wordText? = none := by simp [wordText?, symbol]
    have dotText : nameText [leaf token] = ['.'] := by
      simp [nameText, isNamePart, dot, Tree.text, tokens, Token.textOf, text]
    have words : (leaf token :: (front ++ back)).filterMap wordText? = word :: words := by
      rw [List.filterMap_cons_none noWord, List.filterMap_append, silent.filterMap_wordText?, found]
      rfl
    rw [words, ← List.singleton_append, nameText_append, nameText_append, dotText,
      nameText_eq_nil silent.silent, name]
    rfl

/-- A word, with type arguments or without, starts a name. -/
theorem startsName_word {token : Token} (word : token.kind = .word) {arguments : List Tree}
    (optional : arguments = [] ∨ ∃ inner, arguments = [node .typeArguments inner]) :
    StartsName (leaf token :: arguments) where
  toFits := by
    rcases optional with rfl | ⟨inner, rfl⟩
    · exact .singleton (.name (.inl word)) rfl
    · exact .word_arguments word inner
  name := by
    refine ⟨token.text, [], ?_⟩
    rcases optional with rfl | ⟨inner, rfl⟩
    all_goals simp [wordText?, nameText, isNamePart, word, Tree.text, tokens, Token.textOf]
  first := ⟨leaf token, arguments, rfl, by simp [wordText?, word]⟩

theorem toList_intercalate_cons (word : String) (words : List String) :
    (".".intercalate (word :: words)).toList =
      word.toList ++ words.flatMap fun word => '.' :: word.toList := by
  induction words generalizing word with
  | nil => simp
  | cons next rest ih => simp [String.intercalate_cons_cons, ih]

/-- A type is a name with annotations before it and brackets behind it. -/
theorem StartsName.isTypeForm {annots : List Tree}
    (before : ∀ part ∈ annots, part.isNode .annot = true) (starts : StartsName front)
    (silent : IsSilent back) : IsTypeForm (annots ++ (front ++ back)) where
  toFits := (IsSilent.of_annots before).toFits.append (starts.toFits.append silent.toFits)
  name := by
    have quiet := IsSilent.of_annots before
    obtain ⟨word, words, found, name⟩ := (starts.append silent.continues).name
    rw [nameText_append, nameText_eq_nil quiet.silent, List.filterMap_append,
      quiet.filterMap_wordText?, List.nil_append, List.nil_append, found, name,
      toList_intercalate_cons]
  first := by
    cases annots with
    | nil =>
        obtain ⟨first, rest, same, word⟩ := starts.first
        exact ⟨first, rest ++ back, by rw [same]; rfl, .inr word⟩
    | cons annot rest => exact ⟨annot, _, rfl, .inl (before annot List.mem_cons_self)⟩

end Names

end Tree

namespace Construct

open JavadocAudit.Source.Rule JavadocAudit.Source.Tree

section Types

theorem kind_of_identifier {token : Token} (h : Terminal.identifier.accepts token = true) :
    token.kind = .word := by
  simp only [Terminal.accepts, Bool.and_eq_true, decide_eq_true_eq] at h
  exact h.1

/-- What is read by one of several rules. -/
theorem yields_oneOf {rules : List Part} {Q : List Tree → Prop} (nonempty : rules ≠ [])
    (h : ∀ part ∈ rules, Yields rule part Q) : Yields rule (oneOf rules) Q := by
  fun_induction oneOf rules with
  | case1 => exact absurd rfl nonempty
  | case2 part => exact h part List.mem_cons_self
  | case3 part rest more ih =>
      obtain ⟨first, later⟩ := List.forall_mem_cons.mp h
      exact .either first (ih (by simpa using more) later)

theorem yields_annots :
    Yields rule (many (ref .annot)) fun trees => ∀ part ∈ trees, part.isNode .annot = true := by
  have one : Yields rule (ref .annot) fun trees => ∀ part ∈ trees, part.isNode .annot = true :=
    .ref (.node fun _ _ _ _ => List.forall_mem_singleton.mpr rfl)
  exact .many (by simp) one fun _ _ first later => List.forall_mem_append.mpr ⟨first, later⟩

theorem yields_optional_arguments :
    Yields rule (opt (ref .typeArguments)) fun trees =>
      trees = [] ∨ ∃ inner, trees = [.node .typeArguments inner] := by
  refine .either (.ref (.node fun _ inner _ _ => ?_)) (.nothing (.inl rfl))
  exact .inr ⟨inner, rfl⟩

/-- A word with its type arguments, and what goes on the name behind it. -/
theorem yields_startsName {more : Part} (h : Yields rule more Continues) :
    Yields rule (both identifier (both (opt (ref .typeArguments)) more)) StartsName := by
  intro tokens trees rest reads
  obtain ⟨_, _, _, rfl, word, back⟩ := reads.exists_of_both
  obtain ⟨token, rfl, fits⟩ := word.exists_of_terminal
  obtain ⟨arguments, _, _, rfl, given, later⟩ := back.exists_of_both
  have optional := yields_optional_arguments _ _ _ given
  exact (startsName_word (kind_of_identifier fits) optional).append (h _ _ _ later)

/-- The part of a type behind a dot. -/
theorem yields_continues_qualified :
    Yields rule (seq [sym ".", many (ref .annot), identifier, opt (ref .typeArguments)])
      Continues := by
  intro tokens trees rest reads
  obtain ⟨_, _, _, rfl, dot, back⟩ := reads.exists_of_both
  obtain ⟨token, rfl, fits⟩ := dot.exists_of_terminal
  obtain ⟨_, _, _, rfl, annots, name⟩ := back.exists_of_both
  have starts := yields_startsName (.nothing IsSilent.nil.continues) _ _ _ name
  have whole := starts.continues fits (.of_annots (yields_annots _ _ _ annots))
  exact whole

theorem yields_simpleType : Yields rule (ref .simpleType) StartsName := by
  refine .ref (.either ?_ ?_)
  · refine yields_oneOf (by decide) fun part member => ?_
    obtain ⟨text, -, rfl⟩ := List.mem_map.mp member
    refine .terminal fun token fits => startsName_word ?_ (.inl rfl)
    simp only [Terminal.accepts, Token.isWord, Bool.and_eq_true, decide_eq_true_eq] at fits
    exact fits.1
  · refine yields_startsName (.both ?_ (.nothing IsSilent.nil.continues) fun _ _ => .append)
    exact .many IsSilent.nil.continues yields_continues_qualified fun _ _ => .append

theorem yields_silent_bracket {text : String} (h : text = "[" ∨ text = "]") :
    Yields rule (sym text) IsSilent := by
  refine .terminal fun token fits => ?_
  have bracket : token.isSymbol text = true := fits
  have part : IsTypePart (.leaf token) := by
    refine .bracket ?_
    rcases h with rfl | rfl
    · exact .inl bracket
    · exact .inr bracket
  refine ⟨.singleton part rfl, ?_⟩
  simp only [Token.isSymbol, Bool.and_eq_true, decide_eq_true_eq] at bracket
  rcases h with rfl | rfl
  all_goals simp [isNamePart, Token.isSymbol, bracket]

theorem yields_silent_dimensions : Yields rule (opt (ref .dimensions)) IsSilent := by
  have annots : Yields rule (many (ref .annot)) IsSilent :=
    fun tokens trees rest reads => .of_annots (yields_annots tokens trees rest reads)
  have closing : Yields rule (seq [sym "]"]) IsSilent :=
    .both (yields_silent_bracket (.inr rfl)) (.nothing .nil) fun _ _ => .append
  have brackets : Yields rule (seq [sym "[", sym "]"]) IsSilent :=
    .both (yields_silent_bracket (.inl rfl)) closing fun _ _ => .append
  have one : Yields rule (seq [many (ref .annot), sym "[", sym "]"]) IsSilent :=
    .both annots brackets fun _ _ => .append
  refine .either (.ref (.both one ?_ fun _ _ => .append)) (.nothing .nil)
  exact .many .nil one fun _ _ => .append

/-- What both constructs for types read behind annotations. -/
theorem isTypeForm_of_reads {tokens rest : List Token} {annots trees : List Tree}
    (before : ∀ part ∈ annots, part.isNode .annot = true)
    (h : Reads rule (seq [ref .simpleType, opt (ref .dimensions)]) tokens trees rest) :
    IsTypeForm (annots ++ trees) := by
  obtain ⟨_, _, _, rfl, simple, back⟩ := h.exists_of_both
  have starts := yields_simpleType _ _ _ simple
  have silent : Yields rule (seq [opt (ref .dimensions)]) IsSilent :=
    .both yields_silent_dimensions (.nothing .nil) fun _ _ => .append
  exact starts.isTypeForm before (silent _ _ _ back)

theorem yields_typeForm_plainType :
    Yields rule (seq [ref .simpleType, opt (ref .dimensions)]) IsTypeForm := by
  intro tokens trees rest reads
  show IsTypeForm ([] ++ trees)
  exact isTypeForm_of_reads (List.forall_mem_nil _) reads

theorem yields_typeForm_type :
    Yields rule (seq [many (ref .annot), ref .simpleType, opt (ref .dimensions)]) IsTypeForm := by
  intro tokens trees rest reads
  obtain ⟨_, _, _, rfl, annots, back⟩ := reads.exists_of_both
  exact isTypeForm_of_reads (yields_annots _ _ _ annots) back

end Types

section Clauses

/-- What is read between two symbols. -/
theorem exists_of_reads_between {opening closing : String} {inner : Part}
    {tokens rest : List Token} {trees : List Tree}
    (h : Reads rule (seq [sym opening, inner, sym closing]) tokens trees rest) :
    ∃ first last middle, tokensOf trees = first :: (middle ++ [last]) ∧
      first.isSymbol opening = true ∧ last.isSymbol closing = true := by
  obtain ⟨_, _, _, rfl, opens, back⟩ := h.exists_of_both
  obtain ⟨first, rfl, isOpening⟩ := opens.exists_of_terminal
  obtain ⟨inside, _, _, rfl, -, back⟩ := back.exists_of_both
  obtain ⟨_, _, _, rfl, closes, none⟩ := back.exists_of_both
  obtain ⟨last, rfl, isClosing⟩ := closes.exists_of_terminal
  obtain rfl := none.eq_nil_of_nothing
  refine ⟨first, last, tokensOf inside, ?_, isOpening, isClosing⟩
  simp [tokensOf, tokensOf_append, Tree.tokens]

theorem yields_inAngles {inner : Part} :
    Yields rule (seq [sym "<", inner, sym ">"]) fun trees => InAngles (tokensOf trees) := by
  intro tokens trees rest reads
  obtain ⟨first, last, middle, split, opens, closes⟩ := exists_of_reads_between reads
  exact ⟨first, middle, last, split, opens, closes⟩

/-- A name has nothing but words and dots. -/
theorem yields_name : Yields rule (ref .name) fun trees => WordsAndDots (tokensOf trees) := by
  have join (xs ys : List Tree) (hx : WordsAndDots (tokensOf xs))
      (hy : WordsAndDots (tokensOf ys)) :
      WordsAndDots (tokensOf (xs ++ ys)) := by
    rw [tokensOf_append]
    exact List.forall_mem_append.mpr ⟨hx, hy⟩
  have word : Yields rule anyName fun trees => WordsAndDots (tokensOf trees) := by
    refine .terminal fun token fits => List.forall_mem_singleton.mpr (.inl ?_)
    simpa [Terminal.accepts] using fits
  have dot : Yields rule (sym ".") fun trees => WordsAndDots (tokensOf trees) :=
    .terminal fun token fits => List.forall_mem_singleton.mpr (.inr fits)
  have more : Yields rule (many (both (sym ".") anyName)) fun trees =>
      WordsAndDots (tokensOf trees) :=
    .many (by simp [WordsAndDots, tokensOf]) (.both dot word join) join
  have whole : Yields rule (sepBy anyName (sym ".")) fun trees => WordsAndDots (tokensOf trees) :=
    .both word more join
  refine .ref (.node fun tokens trees rest reads => ?_)
  simpa [tokensOf, Tree.tokens] using whole tokens trees rest reads

theorem yields_annotationForm {inner : Part} :
    Yields rule (seq [sym "@", ref .name, opt (parens inner)]) fun trees =>
      HasAnnotationForm (tokensOf trees) := by
  intro tokens trees rest reads
  obtain ⟨_, _, _, rfl, signed, back⟩ := reads.exists_of_both
  obtain ⟨sign, rfl, fits⟩ := signed.exists_of_terminal
  obtain ⟨name, _, _, rfl, named, back⟩ := back.exists_of_both
  obtain ⟨given, _, _, rfl, optional, none⟩ := back.exists_of_both
  obtain rfl := none.eq_nil_of_nothing
  refine ⟨sign, tokensOf name ++ tokensOf given, ?_, fits, ?_⟩
  · simp [tokensOf, tokensOf_append, Tree.tokens]
  · cases optional with
    | first between =>
        obtain ⟨first, last, middle, split, -, closes⟩ := exists_of_reads_between between
        exact .inr ⟨tokensOf name ++ first :: middle, last, by rw [split]; simp, closes⟩
    | second without =>
        obtain rfl := without.eq_nil_of_nothing
        exact .inl (by simpa [tokensOf] using yields_name _ _ _ named)

/-- A type in a clause is a node of its own. -/
theorem yields_type : Yields rule (ref .type) fun trees =>
    ∃ type, trees = [type] ∧ type.isNode .type = true :=
  .ref (.node fun _ _ _ _ => ⟨_, rfl, rfl⟩)

theorem yields_throws :
    Yields rule (seq [word "throws", commaSep (ref .type)]) fun trees =>
      ∃ keyword more, trees = leaf keyword :: more ∧ TokensAndTypes more := by
  have join (xs ys : List Tree) (hx : TokensAndTypes xs) (hy : TokensAndTypes ys) :
      TokensAndTypes (xs ++ ys) := List.forall_mem_append.mpr ⟨hx, hy⟩
  have none : TokensAndTypes [] := List.forall_mem_nil _
  have comma (t : Terminal) : Yields rule (terminal t) TokensAndTypes :=
    .terminal fun token _ => List.forall_mem_singleton.mpr (.inl ⟨token, rfl⟩)
  have type : Yields rule (ref .type) TokensAndTypes := by
    intro tokens trees rest reads
    obtain ⟨type, rfl, kind⟩ := yields_type tokens trees rest reads
    exact List.forall_mem_singleton.mpr (.inr kind)
  have list : Yields rule (commaSep (ref .type)) TokensAndTypes :=
    .both type (.many none (.both (comma _) type join) join) join
  have back := Yields.both list (.nothing none) join
  intro tokens trees rest reads
  obtain ⟨_, _, _, rfl, keyword, types⟩ := reads.exists_of_both
  obtain ⟨token, rfl, -⟩ := keyword.exists_of_terminal
  exact ⟨token, _, rfl, back _ _ _ types⟩

theorem yields_superclass :
    Yields rule (seq [word "extends", ref .type]) fun trees =>
      ∃ token type, trees = [leaf token, type] ∧ type.isNode .type = true := by
  intro tokens trees rest reads
  obtain ⟨_, _, _, rfl, keyword, back⟩ := reads.exists_of_both
  obtain ⟨token, rfl, -⟩ := keyword.exists_of_terminal
  obtain ⟨_, _, _, rfl, named, none⟩ := back.exists_of_both
  obtain rfl := none.eq_nil_of_nothing
  obtain ⟨type, rfl, kind⟩ := yields_type _ _ _ named
  exact ⟨token, type, rfl, kind⟩

end Clauses

section Declarations

/-- A name is among the trees. -/
def HasName (trees : List Tree) : Prop := ∃ part ∈ trees, part.isNode .name = true

theorem yields_hasName_left {first : Part} (h : Yields rule first HasName) (second : Part) :
    Yields rule (both first second) HasName :=
  .both h (.anything second) fun _ _ ⟨part, inside, kind⟩ _ =>
    ⟨part, List.mem_append_left _ inside, kind⟩

theorem yields_hasName_right (first : Part) {second : Part} (h : Yields rule second HasName) :
    Yields rule (both first second) HasName :=
  .both (.anything first) h fun _ _ _ ⟨part, inside, kind⟩ =>
    ⟨part, List.mem_append_right _ inside, kind⟩

theorem yields_hasName_node (inner : Part) : Yields rule (node .name inner) HasName :=
  .node fun _ _ _ _ => ⟨_, List.mem_cons_self, rfl⟩

/-- A rule for a sequence gives a name if one of its rules does. -/
theorem yields_hasName_seq {rules : List Part} {part : Part} (member : part ∈ rules)
    (h : Yields rule part HasName) : Yields rule (seq rules) HasName := by
  induction rules with
  | nil => cases member
  | cons first rest ih =>
      rcases List.mem_cons.mp member with rfl | later
      · exact yields_hasName_left h _
      · exact yields_hasName_right first (ih later)

theorem yields_hasName_typeDeclaration :
    Yields rule (both (opt (ref .modifiers))
      (oneOf [classRest, recordRest, interfaceRest, annotationRest, enumRest])) HasName := by
  refine yields_hasName_right _ (yields_oneOf (by simp) ?_)
  intro part member
  have named : Yields rule declaredName HasName := yields_hasName_node anyName
  simp only [List.mem_cons, List.not_mem_nil, or_false] at member
  rcases member with rfl | rfl | rfl | rfl | rfl
  all_goals exact yields_hasName_seq (by simp) named

end Declarations

/-- A kind of node of which no particular form is asked. -/
def isFree (kind : Tree.Kind) : Bool :=
  kind ∉ [.type, .typeArguments, .annot, .throws, .superclass, .method, .constructor,
    .typeDeclaration]

theorem hasForm_of_isFree (kind : Tree.Kind) (trees : List Tree) (h : isFree kind = true) :
    (Tree.node kind trees).HasForm := by
  cases kind <;> trivial

theorem builds_hasForm_of_buildsOnly {part : Part} (h : part.buildsOnly isFree = true) :
    part.Builds rule HasForm :=
  builds_of_buildsOnly hasForm_of_isFree h

theorem builds_hasForm_typeDeclaration : (rule .typeDeclaration).Builds rule HasForm := by
  have clause : (node .superclass (seq [word "extends", ref .type])).Builds rule HasForm :=
    ⟨yields_superclass, builds_hasForm_of_buildsOnly (by decide)⟩
  have classes : classRest.Builds rule HasForm := by
    refine builds_seq.mpr ?_
    simp only [List.forall_mem_cons]
    refine ⟨trivial, ?_, ?_, ⟨clause, trivial⟩, ?_, ?_, trivial, by simp⟩
    all_goals exact builds_hasForm_of_buildsOnly (by decide)
  refine ⟨yields_hasName_typeDeclaration, builds_hasForm_of_buildsOnly (by decide), ?_⟩
  refine builds_oneOf.mpr ?_
  simp only [List.forall_mem_cons]
  refine ⟨classes, ?_, ?_, ?_, ?_, by simp⟩
  all_goals exact builds_hasForm_of_buildsOnly (by decide)

theorem yields_hasName_constructor :
    Yields rule (both (opt (ref .modifiers))
      (oneOf
        [seq [opt (ref .typeParameters), node .name identifier, ref .parameters, opt (ref .throws),
           constructorBody],
         seq [node .name identifier, methodBody]])) HasName := by
  refine yields_hasName_right _ (.either ?_ ?_)
  all_goals exact yields_hasName_seq (by simp) (yields_hasName_node identifier)

/-- Every construct builds nodes of the form that is asked of them. -/
theorem builds_hasForm_rule (construct : Construct) : (rule construct).Builds rule HasForm := by
  cases construct with
  | type => exact ⟨yields_typeForm_type, builds_hasForm_of_buildsOnly (by decide)⟩
  | plainType => exact ⟨yields_typeForm_plainType, builds_hasForm_of_buildsOnly (by decide)⟩
  | typeArguments => exact ⟨yields_inAngles, builds_hasForm_of_buildsOnly (by decide)⟩
  | annot => exact ⟨yields_annotationForm, builds_hasForm_of_buildsOnly (by decide)⟩
  | throws => exact ⟨yields_throws, builds_hasForm_of_buildsOnly (by decide)⟩
  | typeDeclaration => exact builds_hasForm_typeDeclaration
  | method =>
      have named := yields_hasName_node anyName
      exact ⟨yields_hasName_seq (by simp [declaredName]) named,
        builds_hasForm_of_buildsOnly (by decide)⟩
  | constructor => exact ⟨yields_hasName_constructor, builds_hasForm_of_buildsOnly (by decide)⟩
  | _ => exact builds_hasForm_of_buildsOnly (by decide)

theorem builds_hasForm_unit : unit.Builds rule HasForm := builds_hasForm_of_buildsOnly (by decide)

end Construct

/-- Every part of the trees of a source text has the form that is asked of it. -/
theorem Tree.every_hasForm {text : List Char} {tokens : List Token} {trees : List Tree}
    (scanned : Token.scan text = some tokens) (parsed : parse? tokens = some trees) :
    ∀ tree ∈ trees, tree.Every HasForm :=
  every_of_parse? parsed Construct.builds_hasForm_rule Construct.builds_hasForm_unit
    (Token.wellCut_of_scan scanned)

end JavadocAudit.Source

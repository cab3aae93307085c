import JavadocAudit.Source.Grammar.Rule

/-!
# What reading by a rule can give

A reading takes tokens off the front and gives trees for them. `Reads` says which trees a rule can
give for which tokens, by one case for each form of a rule. It leaves open which alternative is
taken and where a repetition ends, so it holds of every successful reading, whatever the number of
steps.

From this a fact about all parts of the trees is proved once and for all. The leaves are tokens that
were read, and each node is built by some `node` rule of the grammar, whose inner rule decides what
the children can be.
-/

namespace JavadocAudit.Source

namespace Rule

variable {ι : Type} {grammar : ι → Rule ι}

/-- A rule can read trees off the front of some tokens and leave the rest. -/
inductive Reads (grammar : ι → Rule ι) : Rule ι → List Token → List Tree → List Token → Prop where
  | nothing {tokens : List Token} : Reads grammar nothing tokens [] tokens
  | terminal {t : Terminal} {token : Token} {rest : List Token} (fits : t.accepts token = true) :
      Reads grammar (terminal t) (token :: rest) [.leaf token] rest
  | both {first second : Rule ι} {tokens middle rest : List Token} {trees more : List Tree}
      (front : Reads grammar first tokens trees middle)
      (back : Reads grammar second middle more rest) :
      Reads grammar (both first second) tokens (trees ++ more) rest
  | first {first second : Rule ι} {tokens rest : List Token} {trees : List Tree}
      (fits : Reads grammar first tokens trees rest) :
      Reads grammar (either first second) tokens trees rest
  | second {first second : Rule ι} {tokens rest : List Token} {trees : List Tree}
      (fits : Reads grammar second tokens trees rest) :
      Reads grammar (either first second) tokens trees rest
  | stop {rule : Rule ι} {tokens : List Token} : Reads grammar (many rule) tokens [] tokens
  | step {rule : Rule ι} {tokens middle rest : List Token} {trees more : List Tree}
      (front : Reads grammar rule tokens trees middle)
      (back : Reads grammar (many rule) middle more rest) :
      Reads grammar (many rule) tokens (trees ++ more) rest
  | absent {rule : Rule ι} {tokens : List Token} : Reads grammar (absent rule) tokens [] tokens
  | node {kind : Tree.Kind} {rule : Rule ι} {tokens rest : List Token} {trees : List Tree}
      (inside : Reads grammar rule tokens trees rest) :
      Reads grammar (node kind rule) tokens [.node kind trees] rest
  | ref {name : ι} {tokens rest : List Token} {trees : List Tree}
      (meant : Reads grammar (grammar name) tokens trees rest) :
      Reads grammar (ref name) tokens trees rest

/-- A successful reading follows the rule. -/
theorem reads_of_run {fuel : Nat} {rule : Rule ι} {tokens rest : List Token} {trees : List Tree}
    (h : run grammar fuel rule tokens = .accepted trees rest) :
    Reads grammar rule tokens trees rest := by
  induction fuel generalizing rule tokens trees rest with
  | zero => cases h
  | succ fuel ih =>
      cases rule with
      | nothing =>
          cases h
          exact .nothing
      | terminal t =>
          simp only [run] at h
          split at h
          · cases h
          · split at h
            · next fits =>
                cases h
                exact .terminal fits
            · cases h
      | both first second =>
          simp only [run] at h
          split at h
          · next front =>
              split at h
              · next back =>
                  cases h
                  exact .both (ih front) (ih back)
              · next other => exact absurd h (other trees rest)
          · next other => exact absurd h (other trees rest)
      | either first second =>
          simp only [run] at h
          split at h
          · exact .second (ih h)
          · exact .first (ih h)
      | many rule =>
          simp only [run] at h
          split at h
          · cases h
            exact .stop
          · cases h
          · next front =>
              split at h
              · next back =>
                  cases h
                  exact .step (ih front) (ih back)
              · next other => exact absurd h (other trees rest)
      | absent rule =>
          simp only [run] at h
          split at h
          · cases h
            exact .absent
          · cases h
          · cases h
      | node kind rule =>
          simp only [run] at h
          split at h
          · next inside =>
              cases h
              exact .node (ih inside)
          · next other => exact absurd h (other trees rest)
      | ref name => exact .ref (ih h)

/-- What is left is the end of what there was. -/
theorem Reads.suffix {rule : Rule ι} {tokens rest : List Token} {trees : List Tree}
    (h : Reads grammar rule tokens trees rest) : rest <:+ tokens := by
  induction h with
  | nothing | stop | absent => exact List.suffix_refl _
  | terminal => exact List.suffix_cons _ _
  | both _ _ front back => exact back.trans front
  | step _ _ front back => exact back.trans front
  | first _ ih | second _ ih | node _ ih | ref _ ih => exact ih

section Inversion

variable {first second : Rule ι} {t : Terminal} {tokens rest : List Token} {trees : List Tree}

theorem Reads.exists_of_both (h : Reads grammar (.both first second) tokens trees rest) :
    ∃ xs ys middle, trees = xs ++ ys ∧ Reads grammar first tokens xs middle ∧
      Reads grammar second middle ys rest := by
  cases h with
  | both front back => exact ⟨_, _, _, rfl, front, back⟩

theorem Reads.exists_of_terminal (h : Reads grammar (.terminal t) tokens trees rest) :
    ∃ token, trees = [.leaf token] ∧ t.accepts token = true := by
  cases h with
  | terminal fits => exact ⟨_, rfl, fits⟩

theorem Reads.eq_nil_of_nothing (h : Reads grammar .nothing tokens trees rest) : trees = [] := by
  cases h
  rfl

end Inversion

end Rule

/-- A property holds of a tree and of all its parts, at any depth. -/
inductive Tree.Every (P : Tree → Prop) : Tree → Prop where
  | intro {tree : Tree} (self : P tree) (parts : ∀ child ∈ tree.children, Every P child) :
      Every P tree

namespace Tree.Every

variable {P : Tree → Prop} {tree : Tree}

theorem self (h : tree.Every P) : P tree := by
  cases h with
  | intro self _ => exact self

theorem parts (h : tree.Every P) : ∀ child ∈ tree.children, child.Every P := by
  cases h with
  | intro _ parts => exact parts

theorem leaf {token : Token} (h : P (.leaf token)) : (Tree.leaf token).Every P :=
  .intro h (by simp [Tree.children])

theorem remark {r : Remark} (h : P (.remark r)) : (Tree.remark r).Every P :=
  .intro h (by simp [Tree.children])

end Tree.Every

namespace Rule

variable {ι : Type} {grammar : ι → Rule ι} {Q Q₁ Q₂ : List Tree → Prop}

/-- All that a rule can read has a property. -/
def Yields (grammar : ι → Rule ι) (rule : Rule ι) (Q : List Tree → Prop) : Prop :=
  ∀ tokens trees rest, Reads grammar rule tokens trees rest → Q trees

namespace Yields

theorem nothing (h : Q []) : Yields grammar nothing Q := by
  intro tokens trees rest reads
  cases reads
  exact h

theorem terminal {t : Terminal} (h : ∀ token, t.accepts token = true → Q [.leaf token]) :
    Yields grammar (terminal t) Q := by
  intro tokens trees rest reads
  cases reads with
  | terminal fits => exact h _ fits

theorem both {first second : Rule ι} (front : Yields grammar first Q₁)
    (back : Yields grammar second Q₂) (join : ∀ xs ys, Q₁ xs → Q₂ ys → Q (xs ++ ys)) :
    Yields grammar (both first second) Q := by
  intro tokens trees rest reads
  cases reads with
  | both readsFront readsBack =>
      exact join _ _ (front _ _ _ readsFront) (back _ _ _ readsBack)

theorem either {first second : Rule ι} (front : Yields grammar first Q)
    (back : Yields grammar second Q) : Yields grammar (either first second) Q := by
  intro tokens trees rest reads
  cases reads with
  | first fits => exact front _ _ _ fits
  | second fits => exact back _ _ _ fits

theorem many {rule : Rule ι} (none : Q []) (one : Yields grammar rule Q₁)
    (join : ∀ xs ys, Q₁ xs → Q ys → Q (xs ++ ys)) : Yields grammar (many rule) Q := by
  intro tokens trees rest reads
  -- The rule must be a variable for the induction on the reading, so its form becomes an equation.
  generalize repeated : Rule.many rule = whole at reads
  induction reads with
  | stop => exact none
  | step front _ _ rest =>
      cases repeated
      exact join _ _ (one _ _ _ front) (rest rfl)
  | nothing | terminal | both | first | second | absent | node | ref => cases repeated

theorem node {kind : Tree.Kind} {rule : Rule ι}
    (h : Yields grammar rule fun trees => Q [.node kind trees]) :
    Yields grammar (node kind rule) Q := by
  intro tokens trees rest reads
  cases reads with
  | node inside => exact h _ _ _ inside

theorem ref {name : ι} (h : Yields grammar (grammar name) Q) : Yields grammar (ref name) Q := by
  intro tokens trees rest reads
  cases reads with
  | ref meant => exact h _ _ _ meant

theorem anything (rule : Rule ι) : Yields grammar rule fun _ => True :=
  fun _ _ _ _ => trivial

end Yields

/-- Every node that a rule itself builds has a property. What it refers to by name is left out, and
so is what it only looks at. -/
def Builds (grammar : ι → Rule ι) (P : Tree → Prop) : Rule ι → Prop
  | nothing | terminal _ | absent _ | ref _ => True
  | both first second | either first second => first.Builds grammar P ∧ second.Builds grammar P
  | many rule => rule.Builds grammar P
  | node kind rule =>
    Yields grammar rule (fun trees => P (.node kind trees)) ∧ rule.Builds grammar P

theorem Builds.mono {P P' : Tree → Prop}
    (weaken : ∀ kind trees, P (.node kind trees) → P' (.node kind trees)) {rule : Rule ι}
    (h : rule.Builds grammar P) : rule.Builds grammar P' := by
  induction rule with
  | nothing | terminal | absent | ref => trivial
  | both first second ihFirst ihSecond | either first second ihFirst ihSecond =>
      exact ⟨ihFirst h.1, ihSecond h.2⟩
  | many rule ih => exact ih h
  | node kind rule ih =>
      exact ⟨fun _ trees _ reads => weaken kind trees (h.1 _ _ _ reads), ih h.2⟩

/-- If a property holds of the tokens that are read and of all nodes that the rules build, it holds
of all parts of what is read. -/
theorem Reads.every {P : Tree → Prop} (built : ∀ name, (grammar name).Builds grammar P)
    {rule : Rule ι} {tokens rest : List Token} {trees : List Tree}
    (h : Reads grammar rule tokens trees rest) (builds : rule.Builds grammar P)
    (given : ∀ token ∈ tokens, P (.leaf token)) : ∀ tree ∈ trees, tree.Every P := by
  induction h with
  | nothing | stop | absent => simp
  | terminal =>
      intro tree member
      obtain rfl := List.mem_singleton.mp member
      exact .leaf (given _ List.mem_cons_self)
  | both front _ first second =>
      intro tree member
      rcases List.mem_append.mp member with member | member
      · exact first builds.1 given tree member
      · exact second builds.2 (fun token h => given token (front.suffix.subset h)) tree member
  | first _ ih => exact ih builds.1 given
  | second _ ih => exact ih builds.2 given
  | step front _ once again =>
      intro tree member
      rcases List.mem_append.mp member with member | member
      · exact once builds given tree member
      · exact again builds (fun token h => given token (front.suffix.subset h)) tree member
  | node inside ih =>
      intro tree member
      obtain rfl := List.mem_singleton.mp member
      exact .intro (builds.1 _ _ _ inside) (ih builds.2 given)
  | ref _ ih => exact ih (built _) given

section Combined

variable {P : Tree → Prop}

theorem builds_seq {rules : List (Rule ι)} :
    (seq rules).Builds grammar P ↔ ∀ rule ∈ rules, rule.Builds grammar P := by
  induction rules with
  | nil => simp [seq, Builds]
  | cons rule rest ih =>
      change rule.Builds grammar P ∧ (seq rest).Builds grammar P ↔ _
      rw [ih, List.forall_mem_cons]

theorem builds_oneOf {rules : List (Rule ι)} :
    (oneOf rules).Builds grammar P ↔ ∀ rule ∈ rules, rule.Builds grammar P := by
  fun_induction oneOf rules with
  | case1 => simp [Builds]
  | case2 rule => simp
  | case3 rule rest _ ih => rw [Builds, ih, List.forall_mem_cons]

end Combined

end Rule

end JavadocAudit.Source

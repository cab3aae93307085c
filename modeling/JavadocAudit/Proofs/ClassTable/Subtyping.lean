import JavadocAudit.Proofs.ClassTable.Reachability

/-!
# Climbing from class to class

A table may send the chain of superclasses in a circle, or to a class that it does not have. A
search for a superclass therefore remembers the classes it has passed, and gives up where there is
no superclass and where it comes to a class for the second time. It always ends: a round either
passes one more class of the table, or leaves the table and has nowhere to go on to.

Giving up is never too early. When the search ends without success, the superclass of each class
that it has passed is a class that it has passed as well, so nothing outside of these can be
reached. The answer is that of `isSubtype`, which is reachability.
-/

namespace JavadocAudit.ClassTable

variable {table : ClassTable} {sub sup : String}

section Chain

theorem parent?_eq_some_iff {name parent : String} :
    table.parent? name = some parent ↔ table.superclass? name = some (some parent) :=
  Option.join_eq_some_iff

/-- The last class of a chain is the ancestor of the first. -/
theorem ancestor?_of_chain {chain : Nat → String} {count : Nat}
    (linked : ∀ i < count, table.superclass? (chain i) = some (some (chain (i + 1)))) :
    table.ancestor? count (chain 0) = some (chain count) := by
  induction count with
  | zero => rfl
  | succ count ih =>
      have last := parent?_eq_some_iff.mpr (linked count (Nat.lt_succ_self count))
      rw [ancestor?_add, ih fun i bound => linked i (Nat.lt_succ_of_lt bound)]
      simpa [ancestor?] using last

/-- A class is a subtype of another one exactly if a chain of superclasses leads to it. -/
theorem isSubtype_iff_exists_chain :
    table.isSubtype sub sup = true ↔
      ∃ (count : Nat) (chain : Nat → String), chain 0 = sub ∧ chain count = sup ∧
        ∀ i < count, table.superclass? (chain i) = some (some (chain (i + 1))) := by
  rw [isSubtype_iff]
  constructor
  · rintro ⟨count, reached⟩
    refine ⟨count, fun i => (table.ancestor? i sub).getD "", rfl, by simp [reached], ?_⟩
    intro i bound
    obtain ⟨name, passed, -⟩ := exists_knows_of_lt reached bound
    have rest : (table.parent? name).bind (table.ancestor? (count - (i + 1))) = some sup := by
      have split : count = i + (count - (i + 1) + 1) := by omega
      rw [split, ancestor?_add, passed] at reached
      exact reached
    obtain ⟨parent, step, -⟩ := Option.bind_eq_some_iff.mp rest
    have next : table.ancestor? (i + 1) sub = some parent := by
      rw [ancestor?_add, passed]
      simpa [ancestor?] using step
    simpa [passed, next] using parent?_eq_some_iff.mp step
  · rintro ⟨count, chain, rfl, rfl, linked⟩
    exact ⟨count, ancestor?_of_chain linked⟩

theorem isSubtype_refl (table : ClassTable) (name : String) : table.isSubtype name name = true :=
  isSubtype_iff.mpr ⟨0, rfl⟩

theorem isSubtype_trans {mid : String} (first : table.isSubtype sub mid = true)
    (second : table.isSubtype mid sup = true) : table.isSubtype sub sup = true := by
  obtain ⟨lower, reached⟩ := isSubtype_iff.mp first
  obtain ⟨upper, onward⟩ := isSubtype_iff.mp second
  exact isSubtype_iff.mpr ⟨lower + upper, by rw [ancestor?_add, reached, Option.bind_some, onward]⟩

/-- What extends an unchecked class is unchecked. -/
theorem isUnchecked_of_isSubtype (first : table.isSubtype sub sup = true)
    (unchecked : table.isUnchecked sup = true) : table.isUnchecked sub = true := by
  obtain ⟨root, member, second⟩ := List.any_eq_true.mp unchecked
  exact List.any_eq_true.mpr ⟨root, member, isSubtype_trans first second⟩

end Chain

/-- Where a search stands: the class it has come to, if there is one, and the classes it has
passed. -/
structure Climb where
  current : Option String
  passed : List String := []

namespace Climb

/-- One round of a search: its answer, or where it stands after the round. -/
def round (table : ClassTable) (sup : String) (climb : Climb) : Bool ⊕ Climb :=
  match climb.current with
  | none => .inl false
  | some name =>
    if name ∈ climb.passed then .inl false
    else if name = sup then .inl true
    else .inr ⟨table.parent? name, name :: climb.passed⟩

/-- Round after round, the search ends with an answer. -/
inductive Ends (table : ClassTable) (sup : String) : Climb → Bool → Prop
  | now {climb : Climb} {answer : Bool} (here : climb.round table sup = .inl answer) :
      Ends table sup climb answer
  | later {climb next : Climb} {answer : Bool} (goesOn : climb.round table sup = .inr next)
      (rest : Ends table sup next answer) : Ends table sup climb answer

variable {climb next : Climb}

section Round

theorem round_eq_inr_iff :
    climb.round table sup = .inr next ↔
      ∃ name, climb.current = some name ∧ name ∉ climb.passed ∧ name ≠ sup ∧
        next = ⟨table.parent? name, name :: climb.passed⟩ := by
  unfold round
  cases climb.current with
  | none => simp
  | some name =>
      dsimp only
      split
      · next again => simp [again]
      · next new =>
          split
          · next here => simp [here]
          · next other => simp [new, other, eq_comm (a := next)]

theorem round_eq_inl_true_iff :
    climb.round table sup = .inl true ↔ climb.current = some sup ∧ sup ∉ climb.passed := by
  unfold round
  cases climb.current with
  | none => simp
  | some name =>
      dsimp only
      split
      · next again =>
          refine iff_of_false (by simp) ?_
          rintro ⟨⟨⟩, new⟩
          exact new again
      · next new =>
          split
          · next here => simpa [here] using new
          · next other => simp [other]

theorem round_eq_inl_false_iff :
    climb.round table sup = .inl false ↔
      ∀ name, climb.current = some name → name ∈ climb.passed := by
  unfold round
  cases climb.current with
  | none => simp
  | some name =>
      dsimp only
      split
      · next again => simpa using again
      · next new =>
          split
          · simpa using new
          · simpa using new

end Round

section Termination

/-- The most rounds that can follow: one for each class of the table that has not been passed, and
one for a class that is not in the table. -/
def roundsLeft (table : ClassTable) (climb : Climb) : Nat :=
  ((table.classes.map Prod.fst).filter (· ∉ climb.passed)).length + climb.current.toList.length

theorem roundsLeft_lt (h : climb.round table sup = .inr next) :
    next.roundsLeft table < climb.roundsLeft table := by
  obtain ⟨name, here, new, -, rfl⟩ := round_eq_inr_iff.mp h
  have fewer : (table.classes.map Prod.fst).filter (· ∉ name :: climb.passed) =
      ((table.classes.map Prod.fst).filter (· ∉ climb.passed)).filter (· ≠ name) := by
    rw [List.filter_filter]
    refine List.filter_congr fun other _ => ?_
    simp
  simp only [roundsLeft, fewer, here, Option.toList_some, List.length_singleton]
  cases parent : table.parent? name with
  | none => exact Nat.lt_succ_of_le (List.length_filter_le _ _)
  | some direct =>
      -- A class with a superclass is in the table, and there it is passed now.
      have known := knows_iff.mp (knows_of_parent? parent)
      have unpassed : name ∈ (table.classes.map Prod.fst).filter (· ∉ climb.passed) :=
        List.mem_filter.mpr ⟨known, by simpa using new⟩
      refine Nat.add_lt_add_right (List.length_filter_lt_length_iff_exists.mpr ?_) 1
      exact ⟨name, unpassed, by simp⟩

/-- The search ends, wherever it stands. -/
theorem exists_ends (table : ClassTable) (sup : String) (climb : Climb) :
    ∃ answer, Ends table sup climb answer := by
  induction bound : climb.roundsLeft table using Nat.strongRecOn generalizing climb with
  | ind rounds ih =>
      cases h : climb.round table sup with
      | inl answer => exact ⟨answer, .now h⟩
      | inr next =>
          obtain ⟨answer, rest⟩ := ih _ (bound ▸ roundsLeft_lt h) next rfl
          exact ⟨answer, .later h rest⟩

end Termination

section Answer

/-- A search that started at `sub` has been at it, has followed the superclasses of all classes it
has passed, and has not passed `sup`. -/
structure OnWay (table : ClassTable) (sub sup : String) (climb : Climb) : Prop where
  begun : sub ∈ climb.passed ∨ climb.current = some sub
  followed : ∀ name ∈ climb.passed, ∀ parent, table.parent? name = some parent →
    parent ∈ climb.passed ∨ climb.current = some parent
  missed : sup ∉ climb.passed
  reached : ∀ name, climb.current = some name → table.isSubtype sub name = true

theorem onWay_start (table : ClassTable) (sub sup : String) :
    OnWay table sub sup { current := some sub } where
  begun := .inr rfl
  followed := by simp
  missed := by simp
  reached := by
    rintro name ⟨⟩
    exact isSubtype_refl table sub

theorem OnWay.round (onWay : OnWay table sub sup climb)
    (h : climb.round table sup = .inr next) : OnWay table sub sup next := by
  obtain ⟨name, here, new, other, rfl⟩ := round_eq_inr_iff.mp h
  have turned {parent : String} (old : parent ∈ climb.passed ∨ climb.current = some parent) :
      parent ∈ name :: climb.passed := by
    rcases old with old | old
    · exact List.mem_cons_of_mem name old
    · rw [here, Option.some.injEq] at old
      exact old ▸ List.mem_cons_self
  refine ⟨.inl (turned onWay.begun), ?_, ?_, ?_⟩
  · intro passed member parent step
    rcases List.mem_cons.mp member with rfl | old
    · exact .inr step
    · exact .inl (turned (onWay.followed passed old parent step))
  · exact List.not_mem_cons_of_ne_of_not_mem other.symm onWay.missed
  · intro parent step
    have above : table.isSubtype name parent = true :=
      (isSubtype_of_parent?_eq_some step).mpr (.inr (isSubtype_refl table parent))
    exact isSubtype_trans (onWay.reached name here) above

/-- Classes that hold the superclass of each of them are left by no way. -/
theorem mem_of_ancestor? {classes : List String}
    (closed : ∀ name ∈ classes, ∀ parent, table.parent? name = some parent → parent ∈ classes)
    {steps : Nat} (member : sub ∈ classes) (reached : table.ancestor? steps sub = some sup) :
    sup ∈ classes := by
  induction steps generalizing sub with
  | zero => exact Option.some.inj reached ▸ member
  | succ steps ih =>
      obtain ⟨parent, step, reached⟩ := Option.bind_eq_some_iff.mp reached
      exact ih (closed sub member parent step) reached

theorem OnWay.answer_eq (onWay : OnWay table sub sup climb) {answer : Bool}
    (h : climb.round table sup = .inl answer) : answer = table.isSubtype sub sup := by
  cases answer with
  | true => exact (onWay.reached sup (round_eq_inl_true_iff.mp h).1).symm
  | false =>
      have again := round_eq_inl_false_iff.mp h
      have closed : ∀ name ∈ climb.passed, ∀ parent, table.parent? name = some parent →
          parent ∈ climb.passed := fun name member parent step =>
        (onWay.followed name member parent step).elim id (again parent)
      symm
      rw [← Bool.not_eq_true, isSubtype_iff]
      rintro ⟨steps, reached⟩
      exact onWay.missed
        (mem_of_ancestor? closed (onWay.begun.elim id (again sub)) reached)

theorem Ends.answer_eq {answer : Bool} (ends : Ends table sup climb answer)
    (onWay : OnWay table sub sup climb) : answer = table.isSubtype sub sup := by
  induction ends with
  | now here => exact onWay.answer_eq here
  | later goesOn _ ih => exact ih (onWay.round goesOn)

/-- The search for a superclass ends with the answer of `isSubtype`, and with no other. -/
theorem ends_iff {answer : Bool} :
    Ends table sup { current := some sub } answer ↔ answer = table.isSubtype sub sup := by
  constructor
  · intro ends
    exact ends.answer_eq (onWay_start table sub sup)
  · rintro rfl
    obtain ⟨answer, ends⟩ := exists_ends table sup { current := some sub }
    exact ends.answer_eq (onWay_start table sub sup) ▸ ends

end Answer

end Climb

/-- In every table, circles and unknown superclasses included, the search for a superclass ends, and
it succeeds exactly if a finite chain of superclasses leads there. So every class is a subtype of
itself, a subtype of a subtype is a subtype, and what extends an unchecked class is unchecked. -/
theorem subtyping_is_reachability (table : ClassTable) :
    (∀ sub sup answer, Climb.Ends table sup { current := some sub } answer ↔
      answer = table.isSubtype sub sup) ∧
    (∀ sub sup, table.isSubtype sub sup = true ↔
      ∃ (count : Nat) (chain : Nat → String), chain 0 = sub ∧ chain count = sup ∧
        ∀ i < count, table.superclass? (chain i) = some (some (chain (i + 1)))) ∧
    (∀ name, table.isSubtype name name = true) ∧
    (∀ sub mid sup, table.isSubtype sub mid = true → table.isSubtype mid sup = true →
      table.isSubtype sub sup = true) ∧
    (∀ sub sup, table.isSubtype sub sup = true → table.isUnchecked sup = true →
      table.isUnchecked sub = true) :=
  ⟨fun _ _ _ => Climb.ends_iff, fun _ _ => isSubtype_iff_exists_chain, isSubtype_refl table,
    fun _ _ _ => isSubtype_trans, fun _ _ => isUnchecked_of_isSubtype⟩

/-- A table with a circle, a class above itself, and superclasses that it does not have. -/
def tangledTable : ClassTable where
  classes :=
    [("a.Low", some "a.East"), ("a.East", some "a.West"), ("a.West", some "a.East"),
     ("a.Self", some "a.Self"), ("a.Stray", some "b.Gone"), ("a.Top", none),
     ("a.Slip", some "a.Fault"), ("a.Fault", some "java.lang.Error")]

/-- From below the circle all of it is reached and nothing else; the class that the table does not
have is reached like any other. -/
theorem tangledTable_is_searched :
    Climb.Ends tangledTable "a.Self" { current := some "a.Low" } false ∧
      Climb.Ends tangledTable "a.West" { current := some "a.Low" } true ∧
      Climb.Ends tangledTable "b.Gone" { current := some "a.Stray" } true ∧
      tangledTable.isSubtype "a.Low" "a.West" = true ∧
      tangledTable.isUnchecked "a.Fault" = true ∧ tangledTable.isUnchecked "a.Slip" = true := by
  obtain ⟨search, chain, refl, trans, unchecked⟩ := subtyping_is_reachability tangledTable
  have fault : tangledTable.isUnchecked "a.Fault" = true := by decide +kernel
  refine ⟨(search ..).mpr (by decide +kernel), (search ..).mpr (by decide +kernel),
    (search ..).mpr (by decide +kernel), ?_, fault, ?_⟩
  · exact trans "a.Low" "a.East" "a.West" (by decide +kernel) (by decide +kernel)
  · exact unchecked "a.Slip" "a.Fault" (by decide +kernel) fault

end JavadocAudit.ClassTable

import JavadocAudit.Proofs.Verification.Throws

/-!
# Marks that one more tag makes

Every tag for an exception marks one of the declared ones at most, and the marks steer the tags
behind it: among related exceptions, those that are still open come first. One more tag may
therefore send all later tags to other exceptions. Still, the run with the tag is never more than
one mark ahead of the run without it. Where the runs part, the run behind makes up for the mark that
it lacks, and the other run goes on to the next open exception, or has none left to mark.
-/

namespace JavadocAudit

namespace Declared

variable {α : Type} {resolver : Resolver α} {documented : String} {resolved : Option (Handle α)}
variable {declared declared' : List (Declared α)} {d : Declared α} {place : Nat}

section Marks

/-- The order of two marks does not matter. -/
theorem markFound_comm (declared : List (Declared α)) (first second : Nat) :
    markFound (markFound declared first) second = markFound (markFound declared second) first := by
  by_cases same : first = second
  · rw [same]
  · exact List.modify_modify_ne _ _ _ same

/-- Marking what is marked already changes nothing. -/
theorem markFound_append_of_found (front back : List (Declared α)) (found : d.found = true) :
    markFound (front ++ d :: back) front.length = front ++ d :: back := by
  rw [markFound_append, ← found]

/-- A mark takes one exception at most out of those that are not found yet. -/
theorem filter_not_found_markFound (declared : List (Declared α)) (place : Nat) :
    ((markFound declared place).filter (!·.found)).Sublist (declared.filter (!·.found)) ∧
      (declared.filter (!·.found)).length ≤
        ((markFound declared place).filter (!·.found)).length + 1 := by
  induction declared generalizing place with
  | nil => simp [markFound]
  | cons d rest ih =>
      cases place with
      | zero => cases mark : d.found <;> simp [markFound, mark]
      | succ place =>
          obtain ⟨sub, fewer⟩ := ih place
          have later : markFound (d :: rest) (place + 1) = d :: markFound rest place := rfl
          cases mark : d.found with
          | true => simpa [later, mark] using ih place
          | false =>
              simp only [later, List.filter_cons, mark]
              exact ⟨sub.cons_cons d, Nat.succ_le_succ fewer⟩

end Marks

section Search

/-- A test that is blind to marks ends a search in the same place. -/
theorem index?_markFound_of_blind {test : Declared α → Bool}
    (blind : ∀ d, test { d with found := true } = test d) (declared : List (Declared α))
    (place : Nat) : index? test (markFound declared place) = index? test declared := by
  have searched (declared : List (Declared α)) :
      index? test declared = (declared.map test).findIdx? id := by
    rw [List.findIdx?_map]
    rfl
  rw [searched, searched, map_markFound blind]

/-- The exception is related to a documented one, and nothing has been matched with it so far. -/
def isOpenTo (resolver : Resolver α) (resolved : Handle α) (d : Declared α) : Bool :=
  !d.found && isRelatedTo resolver resolved d

/-- A mark elsewhere does not divert a search for an open exception. -/
theorem index?_isOpenTo_markFound {handle : Handle α} {first : Nat}
    (h : index? (isOpenTo resolver handle) declared = some first) (elsewhere : place ≠ first) :
    index? (isOpenTo resolver handle) (markFound declared place) = some first := by
  obtain ⟨bound, passes, before⟩ := List.findIdx?_eq_some_iff_getElem.mp h
  refine List.findIdx?_eq_some_iff_getElem.mpr ⟨by simpa [markFound] using bound, ?_, ?_⟩
  · simpa [markFound, elsewhere] using passes
  · intro i earlier
    have closed := before i earlier
    simp only [markFound, List.getElem_modify]
    split
    · simp [isOpenTo]
    · exact closed

theorem index?_isOpenTo_markFound_eq_none {handle : Handle α}
    (h : index? (isOpenTo resolver handle) declared = none) (place : Nat) :
    index? (isOpenTo resolver handle) (markFound declared place) = none := by
  rw [index?_eq_none_iff] at h ⊢
  intro d member
  obtain ⟨original, own, rfl | rfl⟩ := mem_markFound_cases member
  · exact h _ own
  · rfl

end Search

section Document

/-- The declared exceptions once a documented one has marked the one it belongs to. -/
def document (resolver : Resolver α) (documented : String) (resolved : Option (Handle α))
    (declared : List (Declared α)) : List (Declared α) :=
  (match? resolver documented resolved declared).elim declared (markFound declared)

theorem match?_of_unnamed {handle : Handle α}
    (unnamed : index? (·.isNamedBy documented (some handle)) declared = none) :
    match? resolver documented (some handle) declared =
      (index? (isOpenTo resolver handle) declared).or
        (index? (fun d => d.found && isRelatedTo resolver handle d) declared) := by
  simp only [match?, unnamed]
  split
  · next place opened =>
      rw [show index? (isOpenTo resolver handle) declared = some place from opened]
      rfl
  · next closed =>
      rw [show index? (isOpenTo resolver handle) declared = none from closed]
      rfl

/-- An exception that is found already needs no mark. So a documented exception marks the first that
it names, or else the first that it is related to and that is still open. -/
theorem document_eq (resolver : Resolver α) (documented : String) (resolved : Option (Handle α))
    (declared : List (Declared α)) :
    document resolver documented resolved declared =
      ((index? (·.isNamedBy documented resolved) declared).or
        (resolved.bind fun handle => index? (isOpenTo resolver handle) declared)).elim declared
          (markFound declared) := by
  unfold document
  cases named : index? (·.isNamedBy documented resolved) declared with
  | some place => simp [match?, named]
  | none =>
      cases resolved with
      | none => simp [match?, named]
      | some handle =>
          rw [match?_of_unnamed named, Option.none_or, Option.bind_some]
          cases index? (isOpenTo resolver handle) declared with
          | some place => rfl
          | none =>
              cases again : index? (fun d => d.found && isRelatedTo resolver handle d) declared with
              | none => rfl
              | some place =>
                  obtain ⟨front, d, back, rfl, rfl, passes, -⟩ := exists_of_index?_eq_some again
                  exact markFound_append_of_found front back (Bool.and_eq_true_iff.mp passes).1

end Document

section Ahead

/-- The second list has the marks of the first and one more at most. -/
def Ahead (declared declared' : List (Declared α)) : Prop :=
  declared' = declared ∨ ∃ place, declared' = markFound declared place

/-- A documented exception makes one mark at most. -/
theorem ahead_document (resolver : Resolver α) (documented : String) (resolved : Option (Handle α))
    (declared : List (Declared α)) :
    Ahead declared (document resolver documented resolved declared) := by
  unfold document
  cases match? resolver documented resolved declared with
  | none => exact .inl rfl
  | some place => exact .inr ⟨place, rfl⟩

/-- A list that is ahead by a mark stays ahead, or is caught up with. -/
theorem Ahead.document (ahead : Ahead declared declared') (resolver : Resolver α)
    (documented : String) (resolved : Option (Handle α)) :
    Ahead (document resolver documented resolved declared)
      (document resolver documented resolved declared') := by
  obtain rfl | ⟨place, rfl⟩ := ahead
  · exact .inl rfl
  · have named : index? (·.isNamedBy documented resolved) (markFound declared place) =
        index? (·.isNamedBy documented resolved) declared :=
      index?_markFound_of_blind (fun _ => rfl) declared place
    have next := document_eq resolver documented resolved (markFound declared place)
    have both (first : Nat) : Ahead (markFound declared first)
        (markFound (markFound declared place) first) :=
      .inr ⟨place, markFound_comm declared place first⟩
    rw [document_eq resolver documented resolved declared]
    cases found : index? (·.isNamedBy documented resolved) declared with
    | some first =>
        rw [next, named, found]
        exact both first
    | none =>
        cases resolved with
        | none =>
            rw [next, named, found]
            exact .inr ⟨place, rfl⟩
        | some handle =>
            cases opened : index? (isOpenTo resolver handle) declared with
            | none =>
                rw [next, named, found]
                simp only [Option.bind_some, opened, index?_isOpenTo_markFound_eq_none opened]
                exact .inr ⟨place, rfl⟩
            | some first =>
                by_cases elsewhere : place = first
                · subst elsewhere
                  simp only [Option.bind_some, opened]
                  exact ahead_document resolver documented (some handle) (markFound declared place)
                · rw [next, named, found]
                  simp only [Option.bind_some, opened,
                    index?_isOpenTo_markFound opened elsewhere]
                  exact both first

/-- Of the exceptions that are not found yet, one at most is no longer among them. -/
theorem Ahead.filter_not_found (ahead : Ahead declared declared') :
    (declared'.filter (!·.found)).Sublist (declared.filter (!·.found)) ∧
      (declared.filter (!·.found)).length ≤ (declared'.filter (!·.found)).length + 1 := by
  obtain rfl | ⟨place, rfl⟩ := ahead
  · exact ⟨List.Sublist.refl _, Nat.le_succ _⟩
  · exact filter_not_found_markFound declared place

end Ahead

end Declared

namespace Verification

variable {α : Type} {resolver : Resolver α} {scope : Option NameScope}
variable {declared declared' : List (Declared α)}

/-- The declared exceptions once exceptions of these names, one after the other, are documented. -/
def documentAll (resolver : Resolver α) (scope : Option NameScope) (names : List String)
    (declared : List (Declared α)) : List (Declared α) :=
  names.foldl
    (fun declared name =>
      Declared.document resolver name (resolver.resolveQuietly name scope) declared)
    declared

/-- Of a tag only the name counts that it documents. -/
theorem settleThrows_snd (tags : List Tag) (declared : List (Declared α)) :
    (settleThrows resolver scope tags declared).2 =
      documentAll resolver scope (tags.map documentedName) declared := by
  induction tags generalizing declared with
  | nil => rfl
  | cons tag rest ih =>
      have step : Declared.document resolver (documentedName tag)
          (resolver.resolveQuietly (documentedName tag) scope) declared =
            (tagMatch? resolver scope declared tag).elim declared (Declared.markFound declared) :=
        rfl
      rw [List.map_cons, documentAll, List.foldl_cons, ← documentAll, step]
      cases h : tagMatch? resolver scope declared tag with
      | some place => rw [settleThrows_cons_of_match h, ih, Option.elim_some]
      | none => rw [settleThrows_cons_of_no_match h, ih, Option.elim_none]

/-- A run that starts ahead by a mark ends ahead by one at most. -/
theorem ahead_documentAll (names : List String) (ahead : Declared.Ahead declared declared') :
    Declared.Ahead (documentAll resolver scope names declared)
      (documentAll resolver scope names declared') := by
  induction names generalizing declared declared' with
  | nil => exact ahead
  | cons name rest ih =>
      exact ih (ahead.document resolver name (resolver.resolveQuietly name scope))

/-- One more name among those that are documented makes one mark more at most. -/
theorem ahead_documentAll_insert (front back : List String) {new : List String}
    (few : new.length ≤ 1) (declared : List (Declared α)) :
    Declared.Ahead (documentAll resolver scope (front ++ back) declared)
      (documentAll resolver scope (front ++ new ++ back) declared) := by
  simp only [documentAll, List.foldl_append]
  refine ahead_documentAll back ?_
  rcases new with _ | ⟨name, _ | ⟨second, others⟩⟩
  · exact .inl rfl
  · exact Declared.ahead_document resolver name _ _
  · simp at few

end Verification

end JavadocAudit

import JavadocAudit.Proofs.ThrowsMatch
import JavadocAudit.Verification

/-!
# Look-ups that fail

A resolver may fail at any of its questions. `tryVerify` is the check with every look-up made for
its effect: a failure that is not handled where it arises ends the whole check. It always comes to
an end and gives what `verify` gives, so no failure gets through. A failing resolver is then
compared with others: a check depends on a resolver only through the answers to the questions that
it really asks, and these are about handles that the resolver itself has given.
-/

namespace JavadocAudit

variable {α : Type}

namespace Resolver

/-- Looks a name up; a failure stands for an unknown class. -/
def tryResolve (resolver : Resolver α) (name : String) (scope : Option NameScope) :
    Except LookupFailure (Option (Handle α)) := do
  try resolver.resolve name scope
  catch _ => return none

/-- Asks in both directions whether one class extends the other; a failure in either ends the
question. -/
def tryRelated (resolver : Resolver α) (a b : Handle α) : Except LookupFailure Bool := do
  try
    if ← resolver.isSubtype a b then return true
    else resolver.isSubtype b a
  catch _ => return false

/-- Asks for the kind of a class; a failure stands for a checked one. -/
def tryUnchecked (resolver : Resolver α) (info : ClassInfo) : Except LookupFailure Bool := do
  try resolver.isUnchecked info
  catch _ => return false

theorem tryResolve_eq (resolver : Resolver α) (name : String) (scope : Option NameScope) :
    resolver.tryResolve name scope = .ok (resolver.resolveQuietly name scope) := by
  unfold tryResolve resolveQuietly
  cases resolver.resolve name scope <;> rfl

theorem tryRelated_eq (resolver : Resolver α) (a b : Handle α) :
    resolver.tryRelated a b = .ok (resolver.related a b) := by
  unfold tryRelated related
  cases resolver.isSubtype a b with
  | error failure => rfl
  | ok isSub =>
      cases isSub with
      | true => rfl
      | false => cases resolver.isSubtype b a <;> rfl

theorem tryUnchecked_eq (resolver : Resolver α) (info : ClassInfo) :
    resolver.tryUnchecked info = .ok (resolver.isUncheckedQuietly info) := by
  unfold tryUnchecked isUncheckedQuietly
  cases resolver.isUnchecked info <;> rfl

end Resolver

namespace Declared

/-- Asks whether a documented class is related to a declared one. -/
def tryIsRelatedTo (resolver : Resolver α) (resolved : Handle α) (declared : Declared α) :
    Except LookupFailure Bool :=
  match declared.resolved with
  | some (.known info) => resolver.tryRelated resolved (.known info)
  | _ => return false

/-- The declared exceptions with their places, those first that nothing has been matched with. -/
def inOrder (declared : List (Declared α)) : List (Declared α × Nat) :=
  declared.zipIdx.filter (!·.1.found) ++ declared.zipIdx.filter (·.1.found)

/-- Looks for the place of the declared exception that a documented one belongs to. -/
def tryMatch (resolver : Resolver α) (documented : String) (resolved : Option (Handle α))
    (declared : List (Declared α)) : Except LookupFailure (Option Nat) :=
  match index? (·.isNamedBy documented resolved) declared with
  | some place => return some place
  | none =>
    match resolved with
    | none => return none
    | some handle => do
      let related ← (inOrder declared).findM? fun item => tryIsRelatedTo resolver handle item.1
      return related.map (·.2)

theorem tryIsRelatedTo_eq (resolver : Resolver α) (resolved : Handle α) (declared : Declared α) :
    tryIsRelatedTo resolver resolved declared = .ok (isRelatedTo resolver resolved declared) := by
  unfold tryIsRelatedTo isRelatedTo
  cases declared.resolved with
  | none => rfl
  | some handle =>
      cases handle with
      | known info => exact resolver.tryRelated_eq resolved (.known info)
      | foreign handle => rfl

/-- A search with a test that never fails is a plain search. -/
theorem findM?_eq_ok {ι : Type} {test : ι → Except LookupFailure Bool} {answer : ι → Bool}
    (total : ∀ item, test item = .ok (answer item)) (items : List ι) :
    items.findM? test = .ok (items.find? answer) := by
  induction items with
  | nil => rfl
  | cons item rest ih =>
      rw [List.findM?, total item]
      cases h : answer item with
      | true => simp [h, bind, Except.bind, pure, Except.pure]
      | false => simpa [h, bind, Except.bind] using ih

/-- The place of the first exception that passes two tests. -/
theorem find?_filter_zipIdx (keep test : Declared α → Bool) (declared : List (Declared α)) :
    ((declared.zipIdx.filter (keep ·.1)).find? (test ·.1)).map (·.2) =
      index? (fun d => keep d && test d) declared := by
  rw [index?, List.findIdx?_eq_fst_find?_zipIdx, List.find?_filter]
  simp

/-- Going through the exceptions in order is looking among those not found yet, and then among the
others. -/
theorem find?_inOrder (test : Declared α → Bool) (declared : List (Declared α)) :
    ((inOrder declared).find? (test ·.1)).map (·.2) =
      match index? (fun d => !d.found && test d) declared with
      | some place => some place
      | none => index? (fun d => d.found && test d) declared := by
  rw [← find?_filter_zipIdx, ← find?_filter_zipIdx, inOrder, List.find?_append]
  cases (declared.zipIdx.filter (!·.1.found)).find? (test ·.1) <;> rfl

theorem tryMatch_eq (resolver : Resolver α) (documented : String) (resolved : Option (Handle α))
    (declared : List (Declared α)) :
    tryMatch resolver documented resolved declared =
      .ok (match? resolver documented resolved declared) := by
  unfold tryMatch match?
  cases index? (·.isNamedBy documented resolved) declared with
  | some place => rfl
  | none =>
      cases resolved with
      | none => rfl
      | some handle =>
          have search := findM?_eq_ok
            (fun item : Declared α × Nat => tryIsRelatedTo_eq resolver handle item.1)
            (inOrder declared)
          dsimp only
          rw [search]
          exact congrArg Except.ok (find?_inOrder (isRelatedTo resolver handle) declared)

end Declared

namespace Verification

/-- The exceptions of a declaration, each looked up in turn. -/
def tryDeclared (resolver : Resolver α) (signature : Signature) :
    Except LookupFailure (List (Declared α)) :=
  signature.exceptions.mapM fun thrown => do
    let resolved ← resolver.tryResolve thrown.name signature.scope
    return { name := thrown.name, resolved, line := thrown.line, column := thrown.column }

/-- Asks whether a tag is for an unchecked exception that need not be declared. -/
def tryIsTolerated (settings : Settings) (resolver : Resolver α) (resolved : Option (Handle α)) :
    Except LookupFailure Bool :=
  match resolved with
  | some (.known info) =>
    if settings.allowUndeclaredUnchecked then resolver.tryUnchecked info else return false
  | _ => return false

/-- Goes through the tags for exceptions: the reports on those that are of no use, and the declared
exceptions with those marked that a tag matches. -/
def tryThrows (settings : Settings) (resolver : Resolver α) (scope : Option NameScope) :
    List Tag → List (Declared α) → Except LookupFailure (List Diagnostic × List (Declared α))
  | [], declared => return ([], declared)
  | tag :: rest, declared => do
    let resolved ← resolver.tryResolve (documentedName tag) scope
    match ← Declared.tryMatch resolver (documentedName tag) resolved declared with
    | some place => tryThrows settings resolver scope rest (Declared.markFound declared place)
    | none =>
      let tolerated ← tryIsTolerated settings resolver resolved
      let (reports, declared) ← tryThrows settings resolver scope rest declared
      return (if tolerated then reports else tag.unused :: reports, declared)

def tryFindings (settings : Settings) (resolver : Resolver α) (signature : Signature)
    (comment : Comment) : Except LookupFailure (List Diagnostic) := do
  let declared ← tryDeclared resolver signature
  let (unusedThrows, declared) ←
    tryThrows settings resolver signature.scope (throwsTags comment) declared
  let missingThrows :=
    if settings.allowMissingThrows || isInherited comment then []
    else (declared.filter (!·.found)).map (expectedThrows signature)
  return missingParams settings signature comment ++ mixedStyle settings signature comment
    ++ unusedParams settings signature comment ++ resultReport settings signature comment
    ++ unusedThrows ++ missingThrows ++ strayTags signature comment

/-- Verifies the comment of a declaration, with every look-up made for its effect. -/
def tryVerify (settings : Settings) (resolver : Resolver α) (signature : Signature)
    (comment : Option Comment) : Except LookupFailure (List Diagnostic) :=
  if !settings.inScope signature.visibility then return []
  else
    match comment with
    | none =>
      return if settings.mayLackComment signature then []
        else [⟨.missingJavadoc, signature.position, []⟩]
    | some comment =>
      match loneInheritDoc? comment.tags with
      | some tag =>
        return if signature.mayInheritDoc then [] else [⟨.invalidInheritDoc, tag.position, []⟩]
      | none => tryFindings settings resolver signature comment

theorem tryDeclared_eq (resolver : Resolver α) (signature : Signature) :
    tryDeclared resolver signature = .ok (declaredExceptions resolver signature) := by
  unfold tryDeclared declaredExceptions
  simp only [Resolver.tryResolve_eq]
  induction signature.exceptions with
  | nil => rfl
  | cons thrown rest ih =>
      rw [List.mapM_cons, ih]
      rfl

theorem tryIsTolerated_eq (settings : Settings) (resolver : Resolver α) (signature : Signature)
    (tag : Tag) :
    tryIsTolerated settings resolver
        (resolver.resolveQuietly (documentedName tag) signature.scope) =
      .ok (isTolerated resolver settings signature tag) := by
  unfold tryIsTolerated isTolerated
  cases resolver.resolveQuietly (documentedName tag) signature.scope with
  | none => simp [pure, Except.pure]
  | some handle =>
      cases handle with
      | known info =>
          cases settings.allowUndeclaredUnchecked with
          | true => exact resolver.tryUnchecked_eq info
          | false => rfl
      | foreign handle => simp [pure, Except.pure]

theorem tryThrows_eq (settings : Settings) (resolver : Resolver α) (signature : Signature)
    (tags : List Tag) (declared : List (Declared α)) :
    tryThrows settings resolver signature.scope tags declared =
      .ok (((settleThrows resolver signature.scope tags declared).1.filter
            (!isTolerated resolver settings signature ·)).map Tag.unused,
          (settleThrows resolver signature.scope tags declared).2) := by
  induction tags generalizing declared with
  | nil => rfl
  | cons tag rest ih =>
      rw [tryThrows, Resolver.tryResolve_eq, settleThrows]
      simp only [bind, Except.bind, Declared.tryMatch_eq]
      cases Declared.match? resolver (documentedName tag)
          (resolver.resolveQuietly (documentedName tag) signature.scope) declared with
      | some place => exact ih _
      | none =>
          simp only [tryIsTolerated_eq, ih]
          cases h : isTolerated resolver settings signature tag <;> simp [h, pure, Except.pure]

/-- No failure gets through: the check comes to an end with the findings of `verify`. -/
theorem tryVerify_eq (settings : Settings) (resolver : Resolver α) (signature : Signature)
    (comment : Option Comment) :
    tryVerify settings resolver signature comment =
      .ok (verify settings resolver signature comment) := by
  unfold tryVerify verify
  cases settings.inScope signature.visibility with
  | false => rfl
  | true =>
      cases comment with
      | none => rfl
      | some comment =>
          dsimp only
          cases loneInheritDoc? comment.tags with
          | some tag => rfl
          | none =>
              simp only [Bool.not_true, Bool.false_eq_true, if_false]
              rw [tryFindings, tryDeclared_eq]
              simp only [bind, Except.bind, tryThrows_eq]
              rfl

end Verification

namespace Resolver

def Gives (resolver : Resolver α) (handle : Handle α) : Prop :=
  ∃ name scope, resolver.resolveQuietly name scope = some handle

/-- Two resolvers give the same handles, and the same answers about them. -/
structure Agrees (a b : Resolver α) : Prop where
  resolve : ∀ name scope, a.resolveQuietly name scope = b.resolveQuietly name scope
  related : ∀ {first second}, a.Gives first → a.Gives second →
    a.related first second = b.related first second
  unchecked : ∀ {info}, a.Gives (.known info) →
    a.isUncheckedQuietly info = b.isUncheckedQuietly info

/-- The resolver with an answer in place of each failure to look a name up or to tell the kind of a
class. -/
def answering (resolver : Resolver α) : Resolver α where
  resolve name scope :=
    match resolver.resolve name scope with
    | .ok found => .ok found
    | .error _ => .ok none
  isSubtype := resolver.isSubtype
  isUnchecked info :=
    match resolver.isUnchecked info with
    | .ok verdict => .ok verdict
    | .error _ => .ok false

theorem agrees_answering (resolver : Resolver α) : resolver.Agrees resolver.answering where
  resolve name scope := by
    simp only [resolveQuietly, answering]
    cases resolver.resolve name scope <;> rfl
  related _ _ := rfl
  unchecked {info} _ := by
    simp only [isUncheckedQuietly, answering]
    cases resolver.isUnchecked info <;> rfl

/-- Resolvers that know no class at all agree, whatever they would answer about classes. -/
theorem agrees_of_knowing_nothing {a b : Resolver α}
    (ha : ∀ name scope, a.resolveQuietly name scope = none)
    (hb : ∀ name scope, b.resolveQuietly name scope = none) : a.Agrees b := by
  have gives_nothing (handle : Handle α) : ¬ a.Gives handle := by
    rintro ⟨name, scope, given⟩
    rw [ha] at given
    cases given
  exact ⟨fun name scope => by rw [ha, hb], fun first _ => absurd first (gives_nothing _),
    fun given => absurd given (gives_nothing _)⟩

end Resolver

namespace Declared

variable {a b : Resolver α} {declared : List (Declared α)}

/-- Every exception has been looked up with the resolver. -/
def LookedUp (resolver : Resolver α) (declared : List (Declared α)) : Prop :=
  ∀ d ∈ declared, ∀ handle, d.resolved = some handle → resolver.Gives handle

/-- Marking an exception does not change what was looked up. -/
theorem LookedUp.markFound (looked : LookedUp a declared) (place : Nat) :
    LookedUp a (markFound declared place) := by
  intro d member handle resolved
  obtain ⟨original, inDeclared, rfl | rfl⟩ := mem_markFound_cases member
  · exact looked _ inDeclared handle resolved
  · exact looked _ inDeclared handle resolved

theorem isRelatedTo_congr (agrees : a.Agrees b) {handle : Handle α} (given : a.Gives handle)
    (looked : LookedUp a declared) :
    ∀ d ∈ declared, isRelatedTo a handle d = isRelatedTo b handle d := by
  intro d member
  unfold isRelatedTo
  split
  · next info resolved => exact agrees.related given (looked d member _ resolved)
  · rfl

theorem index?_congr {test test' : Declared α → Bool} (h : ∀ d ∈ declared, test d = test' d) :
    index? test declared = index? test' declared := by
  induction declared with
  | nil => rfl
  | cons d rest ih =>
      have first := h d (by simp)
      have later := ih fun d member => h d (by simp [member])
      simp only [index?] at later ⊢
      rw [List.findIdx?_cons, List.findIdx?_cons, first, later]

/-- What a documented exception belongs to does not depend on which of two agreeing resolvers is
asked. -/
theorem match?_congr (agrees : a.Agrees b) (documented : String) {resolved : Option (Handle α)}
    (given : ∀ handle, resolved = some handle → a.Gives handle) (looked : LookedUp a declared) :
    match? a documented resolved declared = match? b documented resolved declared := by
  unfold match?
  cases resolved with
  | none => rfl
  | some handle =>
      have same := isRelatedTo_congr agrees (given handle rfl) looked
      have open_ : index? (fun d => !d.found && isRelatedTo a handle d) declared =
          index? (fun d => !d.found && isRelatedTo b handle d) declared :=
        index?_congr fun d member => by rw [same d member]
      have found : index? (fun d => d.found && isRelatedTo a handle d) declared =
          index? (fun d => d.found && isRelatedTo b handle d) declared :=
        index?_congr fun d member => by rw [same d member]
      simp only [open_, found]

end Declared

namespace Verification

variable {a b : Resolver α}

theorem lookedUp_declaredExceptions (resolver : Resolver α) (signature : Signature) :
    Declared.LookedUp resolver (declaredExceptions resolver signature) := by
  intro d member handle resolved
  obtain ⟨thrown, -, rfl⟩ := List.mem_map.mp member
  exact ⟨thrown.name, signature.scope, resolved⟩

theorem settleThrows_congr (agrees : a.Agrees b) (scope : Option NameScope) (tags : List Tag)
    {declared : List (Declared α)} (looked : Declared.LookedUp a declared) :
    settleThrows a scope tags declared = settleThrows b scope tags declared := by
  induction tags generalizing declared with
  | nil => rfl
  | cons tag rest ih =>
      have given : ∀ handle, a.resolveQuietly (documentedName tag) scope = some handle →
          a.Gives handle := fun handle given => ⟨_, _, given⟩
      have same := Declared.match?_congr agrees (documentedName tag) given looked
      simp only [settleThrows]
      rw [same, agrees.resolve]
      split
      · next place _ => exact ih (looked.markFound place)
      · rw [ih looked]

theorem isTolerated_congr (agrees : a.Agrees b) (settings : Settings) (signature : Signature)
    (tag : Tag) :
    isTolerated a settings signature tag = isTolerated b settings signature tag := by
  unfold isTolerated
  rw [← agrees.resolve]
  split
  · next info given => rw [agrees.unchecked ⟨_, _, given⟩]
  · rfl

/-- A check asks no more of a resolver than agreement covers. -/
theorem verify_congr (agrees : a.Agrees b) (settings : Settings) (signature : Signature)
    (comment : Option Comment) :
    verify settings a signature comment = verify settings b signature comment := by
  have declared : declaredExceptions a signature = declaredExceptions b signature := by
    simp only [declaredExceptions, agrees.resolve]
  have settled (comment : Comment) :
      settledThrows a signature comment = settledThrows b signature comment := by
    unfold settledThrows
    rw [← declared]
    exact settleThrows_congr agrees _ _ (lookedUp_declaredExceptions a signature)
  unfold verify findings unusedThrows missingThrows
  simp only [settled, isTolerated_congr agrees]

/-- No failure of a resolver is fatal. A check with failing look-ups comes to an end; it finds what
it finds with an unknown class for each name that cannot be looked up and a checked one for each
class of unknown kind; and if no name can be looked up at all, it finds what it finds with a
resolver that knows no class. -/
theorem failures_degrade_to_names (settings : Settings) (resolver : Resolver α)
    (signature : Signature) (comment : Option Comment) :
    tryVerify settings resolver signature comment =
        .ok (verify settings resolver signature comment) ∧
      verify settings resolver signature comment =
        verify settings resolver.answering signature comment ∧
      ∀ other : Resolver α,
        (∀ name scope, ∃ failure, resolver.resolve name scope = .error failure) →
        (∀ first second, ∃ failure, resolver.isSubtype first second = .error failure) →
        (∀ info, ∃ failure, resolver.isUnchecked info = .error failure) →
        (∀ name scope, other.resolve name scope = .ok none) →
        verify settings resolver signature comment = verify settings other signature comment := by
  refine ⟨tryVerify_eq settings resolver signature comment,
    verify_congr resolver.agrees_answering settings signature comment, ?_⟩
  intro other resolveFails _ _ knowsNothing
  refine verify_congr (Resolver.agrees_of_knowing_nothing ?_ ?_) settings signature comment
  · intro name scope
    obtain ⟨failure, failed⟩ := resolveFails name scope
    rw [Resolver.resolveQuietly, failed]
  · intro name scope
    rw [Resolver.resolveQuietly, knowsNothing]

/-- A resolver that answers nothing. -/
def brokenResolver : Resolver Empty where
  resolve _ _ := .error .unavailable
  isSubtype _ _ := .error .unavailable
  isUnchecked _ := .error .unavailable

/-- A resolver that knows no class, and would call any two classes related. -/
def ignorantResolver : Resolver Empty where
  resolve _ _ := .ok none
  isSubtype _ _ := .ok true
  isUnchecked _ := .ok true

/-- A method with two exceptions. -/
def openSignature : Signature where
  name := "open"
  position := ⟨5, 5⟩
  exceptions := [⟨"java.io.IOException", none, none⟩, ⟨"java.io.EOFException", none, none⟩]

/-- A comment that names the first of them, and another one that extends it. -/
def openComment : Comment where
  lines := ["/** @throws IOException", " * @throws java.io.FileNotFoundException */"]

theorem brokenResolver_degrades :
    tryVerify {} brokenResolver openSignature (some openComment) =
        .ok [⟨.unusedTag, ⟨2, 4⟩, ["@throws", "java.io.FileNotFoundException"]⟩,
          ⟨.expectedThrows, ⟨5, 5⟩, ["@throws", "java.io.EOFException"]⟩] ∧
      verify {} brokenResolver openSignature (some openComment) =
        verify {} ignorantResolver openSignature (some openComment) := by
  obtain ⟨returns, -, degrades⟩ :=
    failures_degrade_to_names {} brokenResolver openSignature (some openComment)
  refine ⟨?_, degrades ignorantResolver (fun _ _ => ⟨_, rfl⟩) (fun _ _ => ⟨_, rfl⟩)
    (fun _ => ⟨_, rfl⟩) (fun _ _ => rfl)⟩
  rw [returns]
  exact congrArg Except.ok (by decide +kernel)

end Verification

end JavadocAudit

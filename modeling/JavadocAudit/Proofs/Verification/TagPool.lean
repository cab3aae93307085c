import JavadocAudit.Proofs.ClassTable.Lookup
import JavadocAudit.Proofs.Verification.Params

/-!
# Taking tags out of a pool

`reconcile` settles the tags of a comment with a pool as its state. The tags are put into buckets,
one for each kind, and leave the pool when a parameter, the result or the exceptions are settled.
What is left in the end is swept up in the order of the comment.

A pool holds the tags that have not been taken: each bucket has those of its kind, in the order of
the comment. All that is done with the pool keeps it so, and therefore comes to the same as
`findings`, where nothing is taken away and every group looks at all tags.
-/

namespace JavadocAudit.Verification

/-- The tags that have not been taken, by kind, with their numbers in the comment. -/
structure TagPool where
  buckets : Dict Tag.Kind (List (Tag × Nat)) := []

namespace TagPool

def bucket (pool : TagPool) (kind : Tag.Kind) : List (Tag × Nat) :=
  (pool.buckets.get? kind).getD []

def put (pool : TagPool) (entry : Tag × Nat) : TagPool :=
  ⟨pool.buckets.insert entry.1.kind (pool.bucket entry.1.kind ++ [entry])⟩

/-- A tag for a parameter that needs no description stays out of the pool. -/
def admits (settings : Settings) (tag : Tag) : Bool :=
  !(tag.kind = .param && tag.argument.any settings.isUnusedParam)

def ofTags (settings : Settings) (tags : List Tag) : TagPool :=
  (tags.zipIdx.filter fun entry => admits settings entry.1).foldl put {}

def takeParam (name : String) : StateM TagPool (Option Tag) := do
  let bucket := (← get).bucket .param
  modify fun pool => ⟨pool.buckets.insert .param (bucket.eraseP (·.1.argument == some name))⟩
  return (bucket.find? (·.1.argument == some name)).map Prod.fst

def takeAll (kind : Tag.Kind) : StateM TagPool (List Tag) := do
  let bucket := (← get).bucket kind
  modify fun pool => ⟨pool.buckets.filter (·.1 != kind)⟩
  return bucket.map Prod.fst

/-- What has not been taken, in the order of the comment. -/
def remaining (pool : TagPool) : List Tag :=
  ((pool.buckets.flatMap Prod.snd).mergeSort fun first second => first.2 ≤ second.2).map Prod.fst

end TagPool

section Reconcile

open TagPool

variable {α : Type} (resolver : Resolver α) (settings : Settings) (signature : Signature)
  (comment : Comment)

structure ParamCheck where
  found : List Diagnostic := []
  tagFound : Bool := false
  narrativeFound : Bool := false

/-- What is found in the end, with the tags that no parameter has taken. -/
def ParamCheck.report (check : ParamCheck) (left : List Tag) : List Diagnostic :=
  check.found
    ++ (if check.tagFound && check.narrativeFound then [⟨.mixedStyle, comment.start, []⟩] else [])
    ++ left.map Tag.unused

def checkParam (check : ParamCheck) (parameter : Parameter) : StateM TagPool ParamCheck := do
  let taken ← takeParam parameter.tagName
  return if taken.isSome then { check with tagFound := true }
    else if isNarrated settings signature comment parameter then
      { check with narrativeFound := true }
    else if settings.allowMissingParams || isInherited comment then check
    else { check with found := check.found ++ [expectedParam signature parameter] }

def checkParams : StateM TagPool (List Diagnostic) := do
  let check ←
    (documentedParams settings signature).foldlM (checkParam settings signature comment) {}
  return check.report comment (← takeAll .param)

/-- Nothing is taken if there is no result. -/
def checkResult : StateM TagPool (List Diagnostic) := do
  if !signature.returnsValue then
    return []
  else
    let tags ← takeAll .result
    return match tags with
      | _ :: duplicates => duplicates.map fun tag => ⟨.duplicateTag, tag.position, ["@return"]⟩
      | [] =>
        if settings.allowMissingReturn || isInherited comment
            || (settings.allowNarrativeReturn && comment.mentionsReturn) then []
        else [⟨.expectedReturn, signature.position, []⟩]

/-- What has been found so far, and the declared exceptions. -/
def checkThrowsTag (check : List Diagnostic × List (Declared α)) (tag : Tag) :
    List Diagnostic × List (Declared α) :=
  let name := documentedName tag
  match Declared.match? resolver name (resolver.resolveQuietly name signature.scope) check.2 with
  | some place => (check.1, Declared.markFound check.2 place)
  | none =>
    if isTolerated resolver settings signature tag then check
    else (check.1 ++ [tag.unused], check.2)

def throwsReport (tags : List Tag) : List Diagnostic :=
  let check := tags.foldl (checkThrowsTag resolver settings signature)
    ([], declaredExceptions resolver signature)
  if settings.allowMissingThrows || isInherited comment then check.1
  else check.1 ++ (check.2.filter (!·.found)).map (expectedThrows signature)

def checkThrows : StateM TagPool (List Diagnostic) := do
  return throwsReport resolver settings signature comment (← takeAll .throws)

/-- The report on what nothing has taken. -/
def sweep : StateM TagPool (List Diagnostic) := do
  let left := (← get).remaining
  return (left.filter fun tag => tag.kind ≠ .other && tag.kind ≠ .inheritDoc).map Tag.unused

def reconcile : StateM TagPool (List Diagnostic) := do
  let params ← checkParams settings signature comment
  let result ← checkResult settings signature comment
  let throws ← checkThrows resolver settings signature comment
  let stray ← sweep
  return params ++ result ++ throws ++ stray

end Reconcile

namespace TagPool

theorem run_takeParam (pool : TagPool) (name : String) :
    (takeParam name).run pool =
      (((pool.bucket .param).find? (·.1.argument == some name)).map Prod.fst,
        ⟨pool.buckets.insert .param
          ((pool.bucket .param).eraseP (·.1.argument == some name))⟩) := rfl

theorem run_takeAll (pool : TagPool) (kind : Tag.Kind) :
    (takeAll kind).run pool =
      ((pool.bucket kind).map Prod.fst, ⟨pool.buckets.filter (·.1 != kind)⟩) := rfl

theorem bucket_insert (pool : TagPool) (put kind : Tag.Kind) (entries : List (Tag × Nat)) :
    bucket ⟨pool.buckets.insert put entries⟩ kind =
      if kind = put then entries else pool.bucket kind := by
  simp only [bucket, Dict.get?_insert, beq_iff_eq]
  split <;> rfl

theorem bucket_filter (pool : TagPool) (taken kind : Tag.Kind) :
    bucket ⟨pool.buckets.filter (·.1 != taken)⟩ kind =
      if kind = taken then [] else pool.bucket kind := by
  simp only [bucket, Dict.get?_filter_ne, beq_iff_eq]
  split <;> rfl

def ofKind (kind : Tag.Kind) (left : List (Tag × Nat)) : List Tag :=
  (left.filter (·.1.kind = kind)).map Prod.fst

/-- The tags that are kept, with their numbers in the comment. -/
def among (keep : Tag → Bool) (tags : List Tag) : List (Tag × Nat) :=
  tags.zipIdx.filter fun entry => keep entry.1

theorem map_fst_among (keep : Tag → Bool) (tags : List Tag) :
    (among keep tags).map Prod.fst = tags.filter keep := by
  have outside := List.filter_map (f := Prod.fst) (p := keep) (l := tags.zipIdx)
  rw [List.zipIdx_map_fst] at outside
  exact outside.symm

theorem ofKind_among (kind : Tag.Kind) (keep : Tag → Bool) (tags : List Tag) :
    ofKind kind (among keep tags) = tags.filter fun tag => tag.kind = kind && keep tag := by
  rw [ofKind, among, List.filter_filter]
  exact map_fst_among (fun tag => tag.kind = kind && keep tag) tags

theorem ofKind_among_of_all {kind : Tag.Kind} {keep : Tag → Bool} {tags : List Tag}
    (all : ∀ tag, tag.kind = kind → keep tag = true) :
    ofKind kind (among keep tags) = tags.filter (·.kind = kind) := by
  rw [ofKind_among]
  exact List.filter_congr fun tag _ => by grind

/-- Each bucket of the pool has the tags of its kind among those that are left, in their order. -/
structure Holds (pool : TagPool) (left : List (Tag × Nat)) : Prop where
  distinct : (pool.buckets.map Prod.fst).Nodup
  bucket : ∀ kind, pool.bucket kind = left.filter (·.1.kind = kind)

variable {pool : TagPool} {left : List (Tag × Nat)}

theorem Holds.put (holds : pool.Holds left) (entry : Tag × Nat) :
    (pool.put entry).Holds (left ++ [entry]) where
  distinct := Dict.nodup_keys_insert holds.distinct _ _
  bucket kind := by
    rw [TagPool.put, bucket_insert, holds.bucket, holds.bucket, List.filter_append]
    by_cases own : entry.1.kind = kind
    · simp [own]
    · simp [own, Ne.symm own]

theorem Holds.foldl_put (holds : pool.Holds left) (entries : List (Tag × Nat)) :
    (entries.foldl TagPool.put pool).Holds (left ++ entries) := by
  induction entries generalizing pool left with
  | nil => simpa using holds
  | cons entry rest ih => simpa using ih (holds.put entry)

/-- At first the pool holds all tags that it admits. -/
theorem holds_ofTags (settings : Settings) (tags : List Tag) :
    (ofTags settings tags).Holds (among (admits settings) tags) := by
  have empty : Holds {} [] := ⟨List.nodup_nil, fun _ => rfl⟩
  exact empty.foldl_put _

theorem filter_eraseP_of_apart {β : Type} {p f : β → Bool} (apart : ∀ a, p a = true → f a = false)
    (l : List β) : (l.eraseP p).filter f = l.filter f := by
  rcases List.exists_or_eq_self_of_eraseP p l with same | ⟨a, front, back, -, taken, rfl, erased⟩
  · rw [same]
  · rw [erased, List.filter_append, List.filter_append, List.filter_cons, apart a taken]
    rfl

/-- The first tag for the name is taken, if there is one, and nothing else. -/
theorem Holds.takeParam (holds : pool.Holds left) (name : String) :
    ((TagPool.takeParam name).run pool).1.isSome =
        (ofKind .param left).any (·.argument == some name) ∧
      ((TagPool.takeParam name).run pool).2.Holds
        (left.eraseP fun entry => entry.1.argument == some name && entry.1.kind = .param) := by
  rw [run_takeParam, holds.bucket]
  refine ⟨by rw [Option.isSome_map, List.isSome_find?, ofKind, List.any_map]; rfl,
    Dict.nodup_keys_insert holds.distinct _ _, fun kind => ?_⟩
  rw [bucket_insert]
  split
  · next own => rw [List.eraseP_filter, own]
  · next different =>
      rw [holds.bucket, filter_eraseP_of_apart]
      intro entry taken
      have param : entry.1.kind = .param := of_decide_eq_true (Bool.and_eq_true_iff.mp taken).2
      simpa [param] using Ne.symm different

/-- All tags of the kind are taken, and nothing else. -/
theorem Holds.takeAll (holds : pool.Holds left) (kind : Tag.Kind) :
    ((TagPool.takeAll kind).run pool).1 = ofKind kind left ∧
      ((TagPool.takeAll kind).run pool).2.Holds (left.filter (·.1.kind ≠ kind)) := by
  rw [run_takeAll, holds.bucket]
  refine ⟨rfl, ?_, fun rest => ?_⟩
  · exact (List.filter_sublist.map Prod.fst).nodup holds.distinct
  · rw [bucket_filter, holds.bucket, List.filter_filter]
    split
    · next own => simp [own]
    · next different => exact List.filter_congr (by grind)

/-- Buckets of different kinds hold together the tags of these kinds. -/
theorem flatMap_perm {buckets : Dict Tag.Kind (List (Tag × Nat))}
    (distinct : (buckets.map Prod.fst).Nodup)
    (own : ∀ entry ∈ buckets, entry.2 = left.filter (·.1.kind = entry.1)) :
    (buckets.flatMap Prod.snd).Perm (left.filter (·.1.kind ∈ buckets.map Prod.fst)) := by
  induction buckets with
  | nil => simp
  | cons entry rest ih =>
      obtain ⟨new, distinct⟩ := List.nodup_cons.mp distinct
      obtain ⟨here, later⟩ := List.forall_mem_cons.mp own
      have own (tag : Tag × Nat) : decide (tag.1.kind ∈ (entry :: rest).map Prod.fst) =
          (decide (tag.1.kind = entry.1) || decide (tag.1.kind ∈ rest.map Prod.fst)) := by
        rw [List.map_cons, Bool.eq_iff_iff]
        simp only [List.mem_cons, decide_eq_true_eq, Bool.or_eq_true]
      simp only [own]
      have parts := List.filter_append_perm (fun tag : Tag × Nat => decide (tag.1.kind = entry.1))
        (left.filter fun tag =>
          decide (tag.1.kind = entry.1) || decide (tag.1.kind ∈ rest.map Prod.fst))
      rw [List.filter_filter, List.filter_filter] at parts
      refine .trans ?_ parts
      rw [List.flatMap_cons, here]
      refine .append (.of_eq (List.filter_congr ?_))
        ((ih distinct later).trans (.of_eq (List.filter_congr ?_)))
      · intro tag _
        cases decide (tag.1.kind = entry.1) <;> rfl
      · intro tag _
        by_cases first : tag.1.kind = entry.1
        · simp only [first, new]
          simp
        · simp [first]

theorem Holds.perm (holds : pool.Holds left) : (pool.buckets.flatMap Prod.snd).Perm left := by
  have own : ∀ entry ∈ pool.buckets, entry.2 = left.filter (·.1.kind = entry.1) := by
    intro entry member
    rw [← holds.bucket, TagPool.bucket, (Dict.get?_eq_some_iff holds.distinct).mpr member]
    rfl
  have kinds : ∀ tag ∈ left, tag.1.kind ∈ pool.buckets.map Prod.fst := by
    intro tag member
    have inBucket : tag ∈ pool.bucket tag.1.kind := by
      rw [holds.bucket]
      simpa using member
    rw [← Dict.isSome_get?_iff]
    cases found : pool.buckets.get? tag.1.kind with
    | none => simp [TagPool.bucket, found] at inBucket
    | some entries => rfl
  have all := flatMap_perm holds.distinct own
  rwa [List.filter_eq_self.mpr (by simpa using kinds)] at all

/-- What remains in a pool is what is left, in the order of the comment. -/
theorem Holds.remaining_eq (holds : pool.Holds left) {tags : List Tag}
    (inOrder : left.Sublist tags.zipIdx) : pool.remaining = left.map Prod.fst := by
  have numbers : tags.zipIdx.Pairwise fun first second => first.2 < second.2 := by
    rw [← List.pairwise_map (f := Prod.snd) (R := (· < ·)), List.zipIdx_map_snd]
    exact List.pairwise_lt_range' 1
  have same : (pool.buckets.flatMap Prod.snd).mergeSort (fun first second => first.2 ≤ second.2) =
      left := by
    have perm := (List.mergeSort_perm _ fun first second => decide (first.2 ≤ second.2)).trans
      holds.perm
    have ordered : left.Pairwise fun first second => first.2 ≤ second.2 :=
      (numbers.sublist inOrder).imp Nat.le_of_lt
    have sorted : ((pool.buckets.flatMap Prod.snd).mergeSort fun first second =>
        first.2 ≤ second.2).Pairwise fun first second => first.2 ≤ second.2 :=
      (List.pairwise_mergeSort (by grind) (by grind) _).imp of_decide_eq_true
    refine List.Perm.eq_of_pairwise ?_ sorted ordered perm
    -- A number belongs to one tag only.
    intro first second member member' le ge
    have number : first.2 = second.2 := Nat.le_antisymm le ge
    have here := List.mem_zipIdx_iff_getElem?.mp (inOrder.subset (perm.mem_iff.mp member))
    have there := List.mem_zipIdx_iff_getElem?.mp (inOrder.subset member')
    rw [number, there] at here
    exact Prod.ext (Option.some.inj here).symm number
  rw [remaining, same]

end TagPool

section Params

open TagPool

variable (settings : Settings) (signature : Signature) (comment : Comment) {pool : TagPool}
  {left : List (Tag × Nat)}

/-- The check after more parameters have been settled. -/
def ParamCheck.extend (check : ParamCheck) (settled : List (Parameter × Treatment)) :
    ParamCheck where
  found := check.found ++
    if settings.allowMissingParams || isInherited comment then []
    else (settled.filter (·.2 = .missing)).map fun settled => expectedParam signature settled.1
  tagFound := check.tagFound || settled.any (·.2 = .tagged)
  narrativeFound := check.narrativeFound || settled.any (·.2 = .narrated)

theorem ParamCheck.extend_nil (check : ParamCheck) :
    check.extend settings signature comment [] = check := by
  simp [extend]

theorem ParamCheck.extend_append (check : ParamCheck)
    (first second : List (Parameter × Treatment)) :
    check.extend settings signature comment (first ++ second) =
      (check.extend settings signature comment first).extend settings signature comment second := by
  simp only [extend, List.filter_append, List.map_append, List.any_append, Bool.or_assoc]
  split <;> simp

theorem ofKind_eraseP (left : List (Tag × Nat)) (p : Parameter) :
    ofKind .param
        (left.eraseP fun entry => entry.1.argument == some p.tagName && entry.1.kind = .param) =
      (ofKind .param left).eraseP (·.describes p) := by
  rw [ofKind, ← List.eraseP_filter, ofKind, List.eraseP_map]
  rfl

/-- A parameter is settled, and takes the tag that describes it. -/
theorem run_checkParam (holds : pool.Holds left) (check : ParamCheck) (p : Parameter) :
    let treatment : Treatment :=
      if (ofKind .param left).any (·.describes p) then .tagged
      else if isNarrated settings signature comment p then .narrated else .missing
    let after := (checkParam settings signature comment check p).run pool
    after.1 = check.extend settings signature comment [(p, treatment)] ∧
      after.2.Holds
        (left.eraseP fun entry => entry.1.argument == some p.tagName && entry.1.kind = .param) := by
  obtain ⟨found, after⟩ := holds.takeParam p.tagName
  have described : ((takeParam p.tagName).run pool).1.isSome =
      (ofKind .param left).any (·.describes p) := found
  refine ⟨?_, after⟩
  have step : ((checkParam settings signature comment check p).run pool).1 =
      if ((takeParam p.tagName).run pool).1.isSome then { check with tagFound := true }
      else if isNarrated settings signature comment p then { check with narrativeFound := true }
      else if settings.allowMissingParams || isInherited comment then check
      else { check with found := check.found ++ [expectedParam signature p] } := rfl
  rw [step, described]
  split
  · simp [ParamCheck.extend]
  · split
    · simp [ParamCheck.extend]
    · split
      · next may => simp [ParamCheck.extend, may]
      · next must => simp [ParamCheck.extend, must]

/-- The loop settles the parameters. Of the tags for parameters those are left that describe none,
and the other tags are not touched. -/
theorem run_foldlM_checkParam (holds : pool.Holds left) (params : List Parameter)
    (check : ParamCheck) :
    let settled := settleParams (isNarrated settings signature comment) params (ofKind .param left)
    let after := (params.foldlM (checkParam settings signature comment) check).run pool
    after.1 = check.extend settings signature comment settled.1 ∧
    ∃ rest, after.2.Holds rest ∧ ofKind .param rest = settled.2 ∧
      rest.filter (·.1.kind ≠ .param) = left.filter (·.1.kind ≠ .param) := by
  induction params generalizing pool left check with
  | nil => exact ⟨(ParamCheck.extend_nil ..).symm, left, holds, rfl, rfl⟩
  | cons p params ih =>
      obtain ⟨step, next⟩ := run_checkParam settings signature comment holds check p
      obtain ⟨loop, rest, holds', own, others⟩ :=
        ih next ((checkParam settings signature comment check p).run pool).1
      rw [ofKind_eraseP] at loop own
      rw [filter_eraseP_of_apart (by simp)] at others
      refine ⟨loop.trans ?_, rest, holds', own.trans ?_, others⟩
      · rw [step, ← ParamCheck.extend_append, settleParams_cons]
        rfl
      · rw [settleParams_cons]

end Params

section Findings

open TagPool

variable {α : Type} (resolver : Resolver α) (settings : Settings) (signature : Signature)
  (comment : Comment) {pool : TagPool} {keep : Tag → Bool}

theorem run_checkParams (holds : pool.Holds (among (admits settings) comment.tags)) :
    let after := (checkParams settings signature comment).run pool
    after.1 = missingParams settings signature comment ++ mixedStyle settings signature comment ++
        unusedParams settings signature comment ∧
      after.2.Holds
        (among (fun tag => tag.kind ≠ .param && admits settings tag) comment.tags) := by
  have own : ofKind .param (among (admits settings) comment.tags) = paramTags settings comment := by
    rw [ofKind_among]
    exact List.filter_congr fun tag _ => by grind [admits]
  obtain ⟨check, rest, loop, unused, others⟩ := run_foldlM_checkParam settings signature comment
    holds (documentedParams settings signature) {}
  obtain ⟨taken, after⟩ := loop.takeAll .param
  rw [own] at check unused
  rw [others, among, List.filter_filter] at after
  have run : ((checkParams settings signature comment).run pool).1 =
      let loop := ((documentedParams settings signature).foldlM
        (checkParam settings signature comment) {}).run pool
      loop.1.report comment ((takeAll .param).run loop.2).1 := rfl
  refine ⟨?_, after⟩
  rw [run]
  dsimp only
  rw [taken, unused, check]
  rfl

theorem run_checkResult (holds : pool.Holds (among keep comment.tags))
    (all : ∀ tag, tag.kind = .result → keep tag = true) :
    let after := (checkResult settings signature comment).run pool
    after.1 = resultReport settings signature comment ∧
      after.2.Holds (among
        (fun tag => (tag.kind ≠ .result || !signature.returnsValue) && keep tag) comment.tags) := by
  cases returns : signature.returnsValue with
  | false =>
      have run : (checkResult settings signature comment).run pool = ([], pool) := by
        simp only [checkResult, returns, Bool.not_false, ↓reduceIte]
        rfl
      rw [run]
      exact ⟨by simp [resultReport, returns], by simpa using holds⟩
  | true =>
      obtain ⟨taken, after⟩ := holds.takeAll .result
      rw [ofKind_among_of_all all] at taken
      rw [among, List.filter_filter] at after
      have run : (checkResult settings signature comment).run pool =
          (resultReport settings signature comment, ((takeAll .result).run pool).2) := by
        simp only [checkResult, resultReport, returns, Bool.not_true, Bool.false_eq_true,
          ↓reduceIte, resultTags]
        rw [← taken]
        rfl
      rw [run]
      exact ⟨rfl, by simpa [among] using after⟩

/-- The loop settles the tags for exceptions. -/
theorem foldl_checkThrowsTag (tags : List Tag) (found : List Diagnostic)
    (declared : List (Declared α)) :
    tags.foldl (checkThrowsTag resolver settings signature) (found, declared) =
      let settled := settleThrows resolver signature.scope tags declared
      (found ++ (settled.1.filter (!isTolerated resolver settings signature ·)).map Tag.unused,
        settled.2) := by
  induction tags generalizing found declared with
  | nil => simp [settleThrows]
  | cons tag tags ih =>
      rw [List.foldl_cons, checkThrowsTag, settleThrows]
      dsimp only
      cases Declared.match? resolver (documentedName tag)
          (resolver.resolveQuietly (documentedName tag) signature.scope) declared with
      | some place => exact ih ..
      | none =>
          dsimp only
          split
          · next tolerated =>
              rw [ih]
              simp [tolerated]
          · next useless =>
              rw [ih]
              simp [useless]

theorem run_checkThrows (holds : pool.Holds (among keep comment.tags))
    (all : ∀ tag, tag.kind = .throws → keep tag = true) :
    let after := (checkThrows resolver settings signature comment).run pool
    after.1 = unusedThrows resolver settings signature comment ++
        missingThrows resolver settings signature comment ∧
      after.2.Holds (among (fun tag => tag.kind ≠ .throws && keep tag) comment.tags) := by
  obtain ⟨taken, after⟩ := holds.takeAll .throws
  rw [ofKind_among_of_all all] at taken
  rw [among, List.filter_filter] at after
  have run : ((checkThrows resolver settings signature comment).run pool).1 =
      throwsReport resolver settings signature comment ((takeAll .throws).run pool).1 := rfl
  refine ⟨?_, after⟩
  rw [run, taken, throwsReport, foldl_checkThrowsTag]
  simp only [unusedThrows, missingThrows, settledThrows, throwsTags, List.nil_append]
  split <;> simp

theorem run_sweep {tags : List Tag} (holds : pool.Holds (among keep tags)) :
    (sweep.run pool).1 =
      (tags.filter fun tag =>
        (tag.kind ≠ .other && tag.kind ≠ .inheritDoc) && keep tag).map Tag.unused := by
  rw [← List.filter_filter, ← map_fst_among keep, ← holds.remaining_eq List.filter_sublist]
  rfl

/-- With the pool of its tags as the state, a comment gives its findings. -/
theorem run_reconcile :
    ((reconcile resolver settings signature comment).run (.ofTags settings comment.tags)).1 =
      findings resolver settings signature comment := by
  obtain ⟨first, holds⟩ :=
    run_checkParams settings signature comment (holds_ofTags settings comment.tags)
  obtain ⟨second, holds⟩ := run_checkResult settings signature comment holds (by grind [admits])
  obtain ⟨third, holds⟩ :=
    run_checkThrows resolver settings signature comment holds (by grind [admits])
  have last := run_sweep holds
  have stray : (comment.tags.filter fun tag => (tag.kind ≠ .other && tag.kind ≠ .inheritDoc) &&
      (tag.kind ≠ .throws && ((tag.kind ≠ .result || !signature.returnsValue) &&
        (tag.kind ≠ .param && admits settings tag)))).map Tag.unused =
      strayTags signature comment := by
    refine congrArg (List.map Tag.unused) (List.filter_congr fun tag _ => ?_)
    cases kind : tag.kind <;> simp [admits, kind]
  have run :
      ((reconcile resolver settings signature comment).run (.ofTags settings comment.tags)).1 =
      let params := (checkParams settings signature comment).run (.ofTags settings comment.tags)
      let result := (checkResult settings signature comment).run params.2
      let throws := (checkThrows resolver settings signature comment).run result.2
      params.1 ++ result.1 ++ throws.1 ++ (sweep.run throws.2).1 := rfl
  rw [run]
  dsimp only
  rw [first, second, third, last, stray, findings]
  simp only [List.append_assoc]

end Findings

end JavadocAudit.Verification

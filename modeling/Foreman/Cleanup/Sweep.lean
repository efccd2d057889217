import Foreman.Cleanup.Info
import Foreman.Jobs.Type
import Foreman.Schedule.Read

/-!
# The clean-up sweep

One worker at a time sweeps up after crashed workers: the one the shared record names,
once its due time has come. Starting a sweep, every tick while it runs, and its end move the
due time to the schedule's next activation, so no tick starts it twice; the tick after the
end forgets it. The sweep cleans the job types in catalog order; one that fails or panics
is reported and passed over, and an interruption by the stopping worker ends the sweep.
Terminating a sweep interrupts it with the job-terminate cause and waits up to a deadline.
-/

namespace Foreman

structure Sweep where
  ctx : Ctx := Ctx.live
  /-- The job types still to clean up; the first is being cleaned up while `waiting`. -/
  rest : List (Definition JobType) := []
  /-- What the clean-up in progress waits on, when it did not return at once. -/
  waiting : Option Behaviour := none
  errors : List Fault := []
  /-- How the sweep ended; `none` while it runs. -/
  result : Option (Option Fault) := none
  db : Option Nat := none
  deriving Inhabited

structure CleanupJob where
  catalog : Catalog JobType
  schedule : Schedule
  pid : Int
  info : CleanupInfo := {}
  sweep : Option Sweep := none
  /-- The clean-up calls made so far, by job. -/
  calls : List (String × Nat) := []

namespace CleanupJob

def callsOf (j : CleanupJob) (name : String) : Nat := (j.calls.lookup name).getD 0

def bump (j : CleanupJob) (name : String) : CleanupJob :=
  { j with calls := (name, j.callsOf name + 1) :: j.calls.filter (·.1 != name) }

/-- The schedule's next activation after `t`, read at UTC. -/
def next (j : CleanupJob) (t : Instant) : Instant := j.schedule.next (.fixed "UTC" 0) t

def running (j : CleanupJob) : Bool :=
  match j.sweep with
  | some s => s.result.isNone
  | none => false

/-- Takes in how one job type's clean-up ended: whether the sweep stops there. -/
def absorb (s : Sweep) (name : String) : Outcome (Option Fault) → Sweep × Bool
  | .returned none => (s, false)
  | .returned (some e) =>
    if e.is .jobTerminate then ({ s with errors := s.errors ++ [e] }, true)
    else ({ s with errors := s.errors ++ [e.wrap name] }, false)
  | .panicked m => ({ s with errors := s.errors ++ [(Fault.plain ("clean up panicked: " ++ m)).wrap name] }, false)

/-- Ends the sweep: its failures are gathered, the due time moves on and its pin of the
handle is given back. -/
def finish (j : CleanupJob) (s : Sweep) (now : Instant) : BackendM CleanupJob := do
  Backend.unpin s.db
  let s := { s with rest := [], waiting := none, result := some (Fault.gather s.errors) }
  return { j with sweep := some s, info := j.info.setTime (j.next now) }

/-- Runs the sweep over the job types `ds` until a clean-up waits or the sweep ends. -/
def advance (j : CleanupJob) (s : Sweep) (now : Instant) : List (Definition JobType) → BackendM CleanupJob
  | [] => j.finish s now
  | d :: rest => do
    match s.ctx.interrupted with
    | some c => j.finish { s with errors := s.errors ++ [c] } now
    | none =>
      let n := j.callsOf d.config.name
      let j := j.bump d.config.name
      match ← d.type.cleanUp n s.ctx (← Backend.handle s.db) now d.config with
      | none =>
        return { j with sweep := some { s with rest := d :: rest, waiting := some (d.type.cleanUpWaitsOn n) } }
      | some o =>
        match absorb s d.config.name o with
        | (s, true) => j.finish s now
        | (s, false) => advance j s now rest

/-- Goes on with a sweep whose clean-up in progress ended with `o`. -/
def resume (j : CleanupJob) (s : Sweep) (o : Outcome (Option Fault)) (now : Instant) : BackendM CleanupJob :=
  match s.rest with
  | [] => j.finish s now
  | d :: rest =>
    match absorb { s with waiting := none } d.config.name o with
    | (s, true) => j.finish s now
    | (s, false) => j.advance s now rest

def settle (j : CleanupJob) (now : Instant) : BackendM CleanupJob :=
  match j.sweep with
  | some s =>
    match s.result, s.waiting with
    | none, some b =>
      match b.result s.ctx "" with
      | some o => j.resume s o now
      | none => return j
    | _, _ => return j
  | none => return j

/-- Releases the clean-up in progress, if it waits to be released and is of the job `name`
when one is given, with the outcome `o`. -/
def release (j : CleanupJob) (name : Option String) (o : Outcome (Option Fault)) (now : Instant) :
    BackendM CleanupJob :=
  match j.sweep with
  | some s =>
    match s.result, s.waiting, s.rest with
    | none, some b, d :: _ =>
      if b.waitsForRelease && (name.map (· == d.config.name)).getD true then j.resume s o now
      else return j
    | _, _, _ => return j
  | none => return j

/-- Starts a sweep when this worker holds the duty and the due time has come; while a sweep
runs, moves the due time on; after it ended, forgets it. -/
def tick (j : CleanupJob) (db : Option Nat) (now : Instant) : BackendM CleanupJob := do
  match j.sweep with
  | some s =>
    if s.result.isNone then return { j with info := j.info.setTime (j.next now) }
    else return { j with sweep := none }
  | none =>
    if j.info.pid != j.pid || j.info.time.nanos > now.nanos then return j
    let j := { j with info := j.info.setTime (j.next now) }
    Backend.pin db
    j.advance { db := db } now j.catalog.defs

/-- Interrupts a running sweep with the job-terminate cause and waits for it to end, up to
a deadline; `release` is the outcome of a clean-up released while waiting. -/
def terminate (j : CleanupJob) (now : Instant) (release : Option (Outcome (Option Fault))) :
    BackendM (Option Fault × CleanupJob) := do
  match j.sweep with
  | none => return (none, j)
  | some s =>
    if s.result.isSome then return (none, j)
    let j ← ({ j with sweep := some { s with ctx := s.ctx.cancel Fault.jobTerminate } } : CleanupJob).settle now
    if !j.running then return (none, j)
    match release with
    | none => return (some Fault.deadline, j)
    | some o =>
      let j ← j.release none o now
      let j ← j.settle now
      if !j.running then return (none, j)
      return (some Fault.deadline, j)

end CleanupJob

end Foreman

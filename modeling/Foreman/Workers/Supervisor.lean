import Foreman.Workers.Pool
import Foreman.Cleanup.Elect
import Foreman.Cleanup.Info
import Foreman.Config.Settings

/-!
# The supervisor

The supervisor keeps the pool full and reports to the service manager. Each round it checks
the shared record is still there, reaps the pool and starts as many workers as it is short of
acceptable ones, and elects the clean-up worker; a lost record or a failed start is fatal. A
run repeats rounds until asked to stop or cancelled, then terminates its workers, gracefully
unless a round failed, the stop is immediate, or it was cancelled without a graceful request.
Its clock stands while it waits; a wait nothing can end is a run that does not end.
-/

namespace Foreman

inductive Notice where
  | ready
  | status (msg : String)
  | stopping
  deriving BEq, Inhabited

/-- The text of a notice. -/
def Notice.text : Notice → String
  | .ready => "READY"
  | .status msg => "STATUS=" ++ msg
  | .stopping => "STOPPING"

/-- A supervisor: its pool, the shared record with the clean-up holder, the answers of the
record's health checks (the n-th check gives entry n, the last repeats, the empty text means
healthy), the notices sent so far and the requests to stop. -/
structure Supervisor where
  pool : Pool
  info : CleanupInfo
  health : List String := []
  checks : Nat := 0
  notices : List Notice := []
  graceful : Bool := false
  immediate : Bool := false
  deriving Inhabited

/-- How the run is asked to stop once it has reported its first status. -/
inductive StopRequest where
  | graceful
  | immediate
  | cancel
  deriving BEq, Inhabited

namespace Supervisor

/-- A supervisor of a pool launched by `launcher` under settings. -/
def new (s : Settings) (launcher : Launcher) (info : CleanupInfo) (health : List String) : Supervisor :=
  { pool := Pool.new launcher s.poolSize s.acceptable, info := info, health := health }

def lost (msg : String) : Fault := .of .sharedInfoLost ("clean-up shared memory lost: " ++ msg)

def check (v : Supervisor) : Option Fault × Supervisor :=
  let answer := v.health.getD v.checks (v.health.getLast?.getD "")
  let v := { v with checks := v.checks + 1 }
  (if answer == "" then none else some (lost answer), v)

def spawn (now : Instant) : Nat → Pool → Option Fault × Pool
  | 0, p => (none, p)
  | n + 1, p =>
    match p.add now with
    | (.error e, p) => (some (e.wrap "spawn worker"), p)
    | (.ok _, p) => spawn now n p

/-- One round: check the record, fill the pool, elect the clean-up worker. -/
def fill (v : Supervisor) (now : Instant) : Option Fault × Supervisor :=
  match v.check with
  | (some e, v) => (some e, v)
  | (none, v) =>
    let p := v.pool.reap now
    match spawn now (p.size - p.count now .acceptable) p with
    | (some e, p) => (some e, { v with pool := p })
    | (none, p) =>
      let info := match electCleanup v.info.pid (p.isAcceptable now) (p.longestAcceptable now) with
        | some pid => v.info.setPid pid
        | none => v.info
      (none, { v with pool := p, info := info })

def notify (v : Supervisor) (n : Notice) : Supervisor := { v with notices := v.notices ++ [n] }

def statusLine (v : Supervisor) (now : Instant) : String :=
  toString (v.pool.len now) ++ " workers, clean-up pid " ++ toString v.info.pid

/-- Signals every live worker and reaps: whether no live worker is left. -/
def signalAndReap (v : Supervisor) (now : Instant) (s : Signal) : Bool × Supervisor :=
  let p := (v.pool.signalAll now s).2.reap now
  (p.len now == 0, { v with pool := p })

/-- Terminates the workers when the run stops; `escalate` asks to stop at once as soon as a
worker was interrupted. `none` when the wait would never end. -/
def terminateWorkers (v : Supervisor) (now : Instant) (immediate escalate : Bool) : Option Supervisor :=
  let (v, immediate, stuck) :=
    if immediate then (v, true, false)
    else
      let interrupted := v.pool.workers.any fun w => w.status now != .exited
      let (done, v) := v.signalAndReap now .interrupt
      let v := if escalate && interrupted then { v with immediate := true } else v
      (v, v.immediate, !done && !v.immediate)
  if stuck then none
  else if immediate then
    let (done, v) := v.signalAndReap now .terminate
    if done then some v else none
  else some v

/-- The rounds of a run, at most `fuel` of them: the failure that ended them, whether the
context was cancelled, and the supervisor; `none` when they would not end. -/
def rounds (now : Instant) (request : Option StopRequest) (ready : Bool) (cancelled : Bool) :
    Nat → Supervisor → Option (Option Fault × Bool × Supervisor)
  | 0, _ => none
  | fuel + 1, v =>
    if v.graceful || v.immediate || cancelled then some (none, cancelled, v)
    else
      match v.fill now with
      | (some e, v) => some (some e, cancelled, v)
      | (none, v) =>
        let v := if ready then v else v.notify .ready
        let v := v.notify (.status (v.statusLine now))
        match if ready then none else request with
        | some .graceful => rounds now request true cancelled fuel { v with graceful := true }
        | some .immediate => rounds now request true cancelled fuel { v with immediate := true }
        | some .cancel => rounds now request true true fuel v
        | none => none

/-- Runs the supervisor, asked to stop by `request` after its first status, with its context
cancelled from the start when `cancelled`; `none` when the run would not end. -/
def run (v : Supervisor) (now : Instant) (cancelled : Bool) (request : Option StopRequest)
    (escalate : Bool) (fuel : Nat) : Option (Option Fault × Supervisor) := do
  let (fatal, cancelled, v) ← rounds now request false cancelled fuel v
  let v := v.notify .stopping
  let immediate := fatal.isSome || v.immediate || (cancelled && !v.graceful)
  let v ← v.terminateWorkers now immediate escalate
  return (fatal, v)

end Supervisor

end Foreman

import Foreman.Jobs.Type
import Foreman.Job.Call

/-!
# Job threads

A job thread owns one row's executor and runs its two calls as tasks, each under its own
context: the execution and the compensating cancellation. Its status is read off its tasks and
the clock: `NOT_RUNNING`, `RUNNING`, `TIMEOUT` once alive past the job timeout, `FINISHED`,
`CANCELING`, `CANCELLATION_TIMEOUT` and `CANCELED`. Starting pins the handle twice, the second
pin kept for a cancellation; cancelling interrupts the execution and starts the cancellation,
the first time only and never after the execution returned.
-/

namespace Foreman

inductive ThreadStatus where
  | notRunning
  | running
  | finished
  | timeout
  | canceling
  | canceled
  | cancellationTimeout
  deriving DecidableEq, BEq, Inhabited

/-- The name of a status. -/
def ThreadStatus.name : ThreadStatus → String
  | .notRunning => "NOT_RUNNING"
  | .running => "RUNNING"
  | .finished => "FINISHED"
  | .timeout => "TIMEOUT"
  | .canceling => "CANCELING"
  | .canceled => "CANCELED"
  | .cancellationTimeout => "CANCELLATION_TIMEOUT"

/-- A call running as a task of its own. -/
structure Task where
  start : Instant
  ctx : Ctx := Ctx.live
  /-- What the call waits on while it is alive; `none` once it returned. -/
  waiting : Option Behaviour := none
  deriving Inhabited

namespace Task

def alive (t : Task) : Bool := t.waiting.isSome

def interrupt (t : Task) (f : Fault) : Task := { t with ctx := t.ctx.cancel f }

/-- Whether a live task returns now: a call waiting on its context returns once the context
is cancelled. -/
def returnsNow (t : Task) : Bool :=
  match t.waiting with
  | some b => (b.result t.ctx "").isSome
  | none => false

end Task

structure Thread where
  row : QueueRow
  config : JobConfig
  executor : JobRun
  cancelTimeout : Int
  db : Option Nat := none
  exec : Option Task := none
  canc : Option Task := none
  /-- Whether the pin kept for a cancellation is still held. -/
  reserved : Bool := false
  cancels : Nat := 0
  signals : Nat := 0
  deriving Inhabited

/-- The behaviour a call of an executor waits on when it does not return at once. -/
def JobRun.waitsOn (e : JobRun) (which : String) : Behaviour :=
  match e with
  | .scripted r => if which == "cancel" then r.cancel else r.execute
  | _ => .ok

namespace Thread

def status (t : Thread) (now : Instant) : ThreadStatus :=
  match t.exec, t.canc with
  | none, _ => .notRunning
  | some e, none =>
    if e.alive && t.config.timeout > 0 && now.since e.start > t.config.timeout then .timeout
    else if e.alive then .running
    else .finished
  | some e, some c =>
    if c.alive && t.cancelTimeout > 0 && now.since c.start > t.cancelTimeout then .cancellationTimeout
    else if c.alive || e.alive then .canceling
    else .canceled

def erasable (t : Thread) : Bool :=
  match t.exec with
  | some e => !e.alive && !(t.canc.map Task.alive).getD false
  | none => false

/-- What follows the return of the execution: the pin kept for a cancellation is given back
if no cancellation took it, then the execution's own pin. -/
def afterExec (t : Thread) : BackendM Thread := do
  let t ← if t.canc.isNone && t.reserved then do
      Backend.unpin t.db
      pure { t with reserved := false }
    else pure t
  Backend.unpin t.db
  return t

/-- Runs the start check of the executor on a handle: whether the row was taken. A check
that fails, panics or does not return counts as not taken. -/
def takeRow (t : Thread) (db : Option Nat) (ctx : Ctx) (now : Instant) : BackendM (Bool × Thread) := do
  let (o, e) ← t.executor.start ctx (← Backend.handle db) now
  return ((o.map Call.started).getD false, { t with executor := e })

/-- Starts the execution on a handle; a thread runs at most once. -/
def launch (t : Thread) (db : Option Nat) (now : Instant) : BackendM Thread := do
  if t.exec.isSome then return t
  let t := { t with db := db, reserved := true }
  Backend.pin db
  Backend.pin db
  let (o, e) ← t.executor.execute Ctx.live (← Backend.handle db) now
  let t := { t with executor := e }
  match o with
  | some _ =>
    let t ← t.afterExec
    return { t with exec := some ⟨now, Ctx.live, none⟩ }
  | none => return { t with exec := some ⟨now, Ctx.live, some (e.waitsOn "execute")⟩ }

/-- Interrupts the execution with the job-timeout cause and starts the cancellation on the
kept pin; only the first call does anything, and none once the execution returned. -/
def cancel (t : Thread) (now : Instant) : BackendM Thread := do
  match t.exec with
  | none => return t
  | some e =>
    if t.canc.isSome || !t.reserved then return t
    let t := { t with reserved := false, exec := some (e.interrupt Fault.jobTimeout), cancels := t.cancels + 1 }
    let (o, r) ← t.executor.cancel Ctx.live (← Backend.handle t.db) now
    let t := { t with executor := r }
    match o with
    | some _ =>
      Backend.unpin t.db
      return { t with canc := some ⟨now, Ctx.live, none⟩ }
    | none => return { t with canc := some ⟨now, Ctx.live, some (r.waitsOn "cancel")⟩ }

/-- Interrupts every live task again, counting the attempt when there was one. -/
def resignal (t : Thread) : Thread :=
  let hit (k : Option Task) := (k.map Task.alive).getD false
  let again (k : Option Task) := k.map fun k => if k.alive then k.interrupt Fault.jobTimeout else k
  if hit t.exec || hit t.canc then
    { t with exec := again t.exec, canc := again t.canc, signals := t.signals + 1 }
  else t

def endExec (t : Thread) : BackendM Thread := do
  let t ← t.afterExec
  return { t with exec := t.exec.map fun e => { e with waiting := none } }

def endCanc (t : Thread) : BackendM Thread := do
  Backend.unpin t.db
  return { t with canc := t.canc.map fun c => { c with waiting := none } }

def settle (t : Thread) : BackendM Thread := do
  let t ← if (t.exec.map Task.returnsNow).getD false then t.endExec else pure t
  if (t.canc.map Task.returnsNow).getD false then t.endCanc else pure t

/-- Releases a task that waits to be released: the execution, or the cancellation. -/
def release (t : Thread) (cancelTask : Bool) : BackendM Thread :=
  let waitsForRelease (k : Option Task) :=
    match k.bind (·.waiting) with
    | some b => b.waitsForRelease
    | none => false
  if cancelTask then (if waitsForRelease t.canc then t.endCanc else pure t)
  else if waitsForRelease t.exec then t.endExec else pure t

end Thread

end Foreman

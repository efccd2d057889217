import Foreman.Threads.Thread

/-!
# The jobs a worker runs

A worker keeps its job threads in start order and drives them from its loop, never waiting on
a job: a tick forgets threads whose tasks all returned, cancels those past the job timeout,
and signals again overrunning cancellations; cancelling everything cancels every running or
timed-out job; terminating cancels everything and re-checks each poll interval until no thread
is left or the deadline passes, signalling again only overrunning cancellations. A job type
may start while below its limit per process. Threads are kept by number and the worker owns a
list of numbers, so a thread started twice is owned twice.
-/

namespace Foreman

structure Threads where
  catalog : Catalog JobType
  cancelTimeout : Int
  pollInterval : Int
  /-- Every thread prepared so far, by number. -/
  all : List Thread := []
  /-- The numbers of the threads the worker owns, in the order it started them. -/
  live : List Nat := []
  deriving Inhabited

namespace Threads

/-- Threads with the given timeouts; a timeout that is not positive takes its default
(three seconds to cancel, a second between checks while terminating). -/
def new (cat : Catalog JobType) (cancelTimeout pollInterval : Int) : Threads :=
  ⟨cat, if cancelTimeout ≤ 0 then 3 * Instant.second else cancelTimeout,
    if pollInterval ≤ 0 then Instant.second else pollInterval, [], []⟩

def get (ts : Threads) (i : Nat) : Thread := ts.all.getD i default

def update (ts : Threads) (i : Nat) (f : Thread → Thread) : Threads :=
  { ts with all := ts.all.set i (f (ts.get i)) }

def updateM (ts : Threads) (i : Nat) (f : Thread → BackendM Thread) : BackendM Threads := do
  let t ← f (ts.get i)
  return { ts with all := ts.all.set i t }

def unknownJob (name : String) : Fault := .of .unknownJob ("unknown job name: " ++ name)

/-- Makes the thread of a row, without starting it; `make` builds the executor. -/
def prepare (ts : Threads) (row : QueueRow) (make : Definition JobType → QueueRow → Except Fault JobRun) :
    Except Fault (Nat × Threads) :=
  match ts.catalog.lookup row.job with
  | none => .error (unknownJob row.job)
  | some d =>
    match make d row with
    | .error e => .error (e.wrap ("job " ++ row.job ++ ": new executor"))
    | .ok e =>
      let t : Thread := { row := row, config := d.config, executor := e, cancelTimeout := ts.cancelTimeout }
      .ok (ts.all.length, { ts with all := ts.all ++ [t] })

/-- Runs the start check of a thread's executor: whether the row was taken. -/
def takeRow (ts : Threads) (i : Nat) (db : Option Nat) (ctx : Ctx) (now : Instant) :
    BackendM (Bool × Threads) := do
  let (ok, t) ← (ts.get i).takeRow db ctx now
  return (ok, { ts with all := ts.all.set i t })

def start (ts : Threads) (i : Nat) (db : Option Nat) (now : Instant) : BackendM Threads := do
  let ts ← ts.updateM i fun t => t.launch db now
  return { ts with live := ts.live ++ [i] }

def prune (ts : Threads) : Threads :=
  { ts with live := ts.live.filter fun i => !(ts.get i).erasable }

/-- Applies `f` to the owned threads in order: cancelling those whose status is in
`cancelling`, and signalling again those whose cancellation overran when `resignal`. -/
def sweep (cancelling : List ThreadStatus) (resignal : Bool) (now : Instant) (ts : Threads) :
    List Nat → BackendM Threads
  | [] => return ts
  | i :: rest => do
    let st := (ts.get i).status now
    let ts ← if cancelling.contains st then ts.updateM i fun t => t.cancel now
      else if resignal && st == .cancellationTimeout then pure (ts.update i Thread.resignal)
      else pure ts
    sweep cancelling resignal now ts rest

/-- Forgets finished threads, cancels timed-out ones and signals again those whose
cancellation overran. -/
def tick (ts : Threads) (now : Instant) : BackendM Threads :=
  let ts := ts.prune
  sweep [.timeout] true now ts ts.live

def cancelAll (ts : Threads) (now : Instant) : BackendM Threads :=
  sweep [.running, .timeout] false now ts ts.live

def settle (ts : Threads) : BackendM Threads :=
  (List.range ts.all.length).foldlM (fun ts i => ts.updateM i Thread.settle) ts

def release (ts : Threads) (i : Nat) (cancelTask : Bool) : BackendM Threads := do
  let ts ← ts.updateM i fun t => t.release cancelTask
  ts.settle

def count (ts : Threads) : Nat := ts.live.length

def countByName (ts : Threads) (name : String) : Nat :=
  (ts.live.filter fun i => (ts.get i).row.job == name).length

def countByOrg (ts : Threads) (org : String) : Nat :=
  (ts.live.filter fun i => (ts.get i).row.org == org).length

/-- The organizations with owned threads, each once, in order of first appearance. -/
def organizations (ts : Threads) : List String :=
  (ts.live.map fun i => (ts.get i).row.org).eraseDups

/-- The jobs that may start another thread: those below their limit per process, in the
catalog's order. -/
def startable (ts : Threads) : List String :=
  (ts.catalog.defs.filter fun d => d.config.maxJobPerProcess - (ts.countByName d.config.name : Int) ≥ 1).map
    (·.config.name)

/-- The passes a termination makes before a deadline `timeout` away: one at once, then one
every poll interval strictly before the deadline. -/
def passes (timeout poll : Int) : Nat :=
  if timeout ≤ 0 || poll ≤ 0 then 1 else 1 + ((timeout - 1) / poll).toNat

/-- Passes of a termination: each forgets finished threads, cancels running ones and
signals again overrunning cancellations, then lets the tasks return. -/
def terminateLoop (now : Instant) : Nat → Threads → BackendM (Option Fault × Threads)
  | 0, ts => return (some Fault.deadline, ts)
  | n + 1, ts => do
    let ts := ts.prune
    let ts ← sweep [.running, .timeout] true now ts ts.live
    if ts.count == 0 then return (none, ts)
    let ts ← ts.settle
    terminateLoop now n ts

/-- Cancels every job and waits, re-checking every poll interval, until no thread is left or
a deadline `timeout` away passes. -/
def terminate (ts : Threads) (now : Instant) (timeout : Int) : BackendM (Option Fault × Threads) :=
  terminateLoop now (passes timeout ts.pollInterval) ts

end Threads

end Foreman

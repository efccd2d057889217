import Foreman.Worker.Basic

/-!
# One pass of a worker's loop

Each pass, in order: connects when there is no connection, a reconnection was asked for, or
the reconnection interval passed, retiring the connection there was first (a failure leaves
none and ends the pass); ticks the
threads; reads the maintenance switches once per check interval; unless maintenance pauses
jobs or the worker drains, once per queue interval and below the job limit, polls the queue
and starts jobs; unless data updates are stopped, ticks the clean-up duty. An interval is asked
only when earlier steps did not decide.
-/

namespace Foreman

structure WorkerLoop where
  db : Option Nat := none
  reconnect : Bool := false
  reconnectEvery : IntervalTimer
  queueEvery : IntervalTimer
  modeEvery : IntervalTimer
  mode : Mode := {}
  modeLoaded : Bool := false
  deriving Inhabited

def WorkerLoop.start (s : Settings) (now : Instant) : WorkerLoop :=
  { reconnectEvery := .start s.dbReconnectInterval now, queueEvery := .start s.queueWatchInterval now,
    modeEvery := .start s.maintenanceCheckInterval now }

namespace Worker

/-- Retires the connection there was, then connects as the dialer's next attempt says. -/
def connect (w : Worker) (st : WorkerLoop) : BackendM (Option Fault × Worker × WorkerLoop) := do
  Backend.retire st.db
  let (c, d) := w.dialer.dial st.db.isSome
  let w := { w with dialer := d }
  let opened (w : Worker) : BackendM (Option Fault × Worker × WorkerLoop) := do
    let i ← Backend.openHandle (Handle.new w.dialect w.workspaceSchema)
    return (none, w, { st with db := some i, reconnect := false })
  let failed (w : Worker) (msg : String) : Option Fault × Worker × WorkerLoop :=
    (some ((Fault.plain msg).wrap "connect"), w, { st with db := none })
  match c with
  | .ok => opened w
  | .drain => opened w.requestGraceful
  | .fail msg => return failed w msg
  | .halt msg => return failed w.requestImmediate msg

/-- Hands out rows of the queue and starts their jobs, at most `fuel` rows. -/
def launchRows (ctx : Ctx) (db : Option Nat) (now : Instant) : Nat → Worker → BackendM Worker
  | 0, w => return w
  | fuel + 1, w => do
    if (w.threads.count : Int) ≥ w.settings.maxJobPerProcess then return w
    match w.queue.pop w.threads.startable (fun o => w.threads.countByOrg o) with
    | (none, q) => return { w with queue := q }
    | (some row, q) =>
      let w := { w with queue := q }
      match w.threads.catalog.lookup row.job with
      | none => launchRows ctx db now fuel w
      | some d =>
        let n := w.madeOf d.config.executor
        let w := w.bumpMade d.config.executor
        match w.threads.prepare row (fun d r => d.type.new n r d.config) with
        | .error _ => launchRows ctx db now fuel w
        | .ok (i, ts) =>
          let (taken, ts) ← ts.takeRow i db ctx now
          let ts ← if taken then ts.start i db now else pure ts
          launchRows ctx db now fuel { w with threads := ts }

/-- Polls the queue for the job types that may start more, and starts jobs from it. -/
def startJobs (w : Worker) (ctx : Ctx) (db : Option Nat) (now : Instant) : BackendM (Option Fault × Worker) := do
  let startable := w.threads.startable
  if startable.isEmpty then return (none, w)
  let (err, q) ← w.queue.query w.threads.catalog ctx (← Backend.handle db) startable
  let w := { w with queue := q }
  match err with
  | some e => return (some e, w)
  | none => return (none, ← launchRows ctx db now q.rows.length w)

def step (w : Worker) (st : WorkerLoop) (ctx : Ctx) (now : Instant) :
    BackendM (Option Fault × Worker × WorkerLoop) := do
  let (due, st) :=
    if st.db.isNone || st.reconnect then (true, st)
    else
      let (p, t) := st.reconnectEvery.passed now
      (p, { st with reconnectEvery := t })
  let (err, w, st) ← if due then w.connect st else pure (none, w, st)
  if err.isSome then return (err, w, st)
  let w := { w with threads := ← w.threads.tick now }
  let (due, st) :=
    if !st.modeLoaded then (true, st)
    else
      let (p, t) := st.modeEvery.passed now
      (p, { st with modeEvery := t })
  let (res, w) ← if due then w.loadMode ctx else pure (.ok st.mode, w)
  match res with
  | .error e => return (some e, w, st)
  | .ok m =>
    let st := { st with mode := m, modeLoaded := true }
    let (go, st) :=
      if st.mode.paused || w.draining now then (false, st)
      else
        let (p, t) := st.queueEvery.passed now
        (p && (w.threads.count : Int) < w.settings.maxJobPerProcess, { st with queueEvery := t })
    let (err, w) ← if go then w.startJobs ctx st.db now else pure (none, w)
    if err.isSome then return (err, w, st)
    if st.mode.dataUpdateStop then return (none, w, st)
    return (none, { w with clean := ← w.clean.tick st.db now }, st)

end Worker

end Foreman

import Foreman.Simulation.Store
import Foreman.Store.Log
import Foreman.Worker.Run
import Foreman.Config.Source

/-!
# Simulated runs of a worker

A run starts a worker over scripted job types and one scripted database, given as
`{config, types, db, dialect, workspace_schema, connects, maintenance, info_pid, info_time,
terminating_time, pid, now, steps}`; each type's n-th executor takes entry n of each of its
lists. The pid is 4242 unless given, and the worker drains an hour after the start unless a
terminating time is given. Steps: `step`, `set_reconnect`, `advance`, `graceful`, `immediate`,
`run` and `release`; after each, every job and clean-up that can return does, and the report
shows the threads, queue, loop state, switches, records, executors and the statements sent.
-/

namespace Foreman

def Behaviour.ofTextOr (s d : String) : Behaviour := Behaviour.ofText (if s == "" then d else s)

/-- How a released call ends, from its behaviour's text (`ok` when empty). -/
def Behaviour.outcome (s : String) : Outcome (Option Fault) :=
  ((Behaviour.ofTextOr s "ok").result Ctx.live "").getD (.returned none)

def ScriptedType.ofJson (j : Json) : ScriptedType :=
  let texts (k : String) := (j.items k).filterMap Json.str?
  { query := j.textOr "query" "", starts := (texts "starts").map Behaviour.ofStartText,
    executes := (texts "executes").map fun s => Behaviour.ofTextOr s "ok",
    cancels := (texts "cancels").map fun s => Behaviour.ofTextOr s "ok",
    cleanUps := (texts "cleanups").map fun s => Behaviour.ofTextOr s "ok" }

structure WorkerRun where
  worker : Worker
  loop : WorkerLoop
  now : Instant
  /-- The names of the job types, in the order they were given. -/
  types : List String
  /-- Whether the switches come from a script. -/
  scripted : Bool

namespace WorkerRun

/-- The thread that runs the executor made `index`-th for an executor name. -/
def threadOf (w : Worker) (executor : String) (index : Nat) : Option Nat :=
  (List.range w.threads.all.length).find? fun i =>
    let t := w.threads.get i
    t.config.executor == executor && match t.executor with
      | .scripted r => r.ordinal == index
      | _ => false

/-- Runs one step: its answer, if it has one. -/
def step (r : WorkerRun) (fault : Fault → Json) (j : Json) : BackendM (Option Json × WorkerRun) := do
  let ctx := if j.flag "cancel_ctx" then Ctx.cancelledWith Fault.canceled else Ctx.live
  let w := r.worker
  let answer (e : Option Fault) : Option Json := some ((e.map fault).getD .null)
  match j.textOr "do" "" with
  | "step" =>
    let (e, w, st) ← w.step r.loop ctx r.now
    return (answer e, { r with worker := w, loop := st })
  | "set_reconnect" => return (none, { r with loop := { r.loop with reconnect := true } })
  | "advance" => return (none, { r with now := r.now.add (Simulation.millis (j.intOr "ms" 0)) })
  | "graceful" => return (none, { r with worker := w.requestGraceful })
  | "immediate" => return (none, { r with worker := w.requestImmediate })
  | "run" =>
    match ← w.run ctx r.now 1000 with
    | some (e, w) => return (answer e, { r with worker := w })
    | none => return (some (fault (.plain "worker did not stop")), r)
  | "release" =>
    let ty := j.textOr "type" ""
    match j.textOr "which" "execute" with
    | "cleanup" =>
      let c ← w.clean.release (some ty) (Behaviour.outcome (j.textOr "result" "")) r.now
      return (none, { r with worker := { w with clean := c } })
    | which =>
      match threadOf w ty (j.intOr "index" 0).toNat with
      | some i =>
        let ts ← w.threads.release i (which == "cancel")
        return (none, { r with worker := { w with threads := ts } })
      | none => return (none, r)
  | other => return (some (fault (.plain ("unknown step " ++ other))), r)

/-- The executors made for an executor name, with the calls each received. -/
def executors (w : Worker) (executor : String) : Json :=
  let n := w.madeOf executor
  if n == 0 then .null
  else .arr ((List.range n).map fun k =>
    let (s, e, c) := match threadOf w executor k with
      | some i => match (w.threads.get i).executor with
        | .scripted x => (x.starts, x.executes, x.cancels)
        | _ => (0, 0, 0)
      | none => (0, 0, 0)
    .obj [("starts", .nat s), ("executes", .nat e), ("cancels", .nat c)])

/-- The report after a step, with the statements sent since the last one. -/
def report (r : WorkerRun) (sent : List Sent) : Json :=
  let w := r.worker
  let thread (i : Nat) : Json :=
    let t := w.threads.get i
    .obj [("job", .str t.row.job), ("org", .str t.row.org), ("key", .str t.row.key),
      ("status", .str (t.status r.now).name), ("cancels", .nat t.cancels), ("signals", .nat t.signals)]
  let base : List (String × Json) :=
    [("threads", .arr (w.threads.live.map thread)), ("count", .nat w.threads.count),
     ("queue_len", .nat w.queue.rows.length), ("draining", .bool (w.draining r.now)),
     ("has_db", .bool r.loop.db.isSome), ("mode_loaded", .bool r.loop.modeLoaded),
     ("mode", .obj [("data_update_stop", .bool r.loop.mode.dataUpdateStop),
       ("backyard_execute_stop", .bool r.loop.mode.backyardExecuteStop)]),
     ("info_pid", .int w.clean.info.pid), ("info_time", .str w.clean.info.time.rfc3339),
     ("cleanup_running", .bool w.clean.running),
     ("types", .obj (r.types.map fun n =>
       (n, .obj [("executors", executors w n), ("cleanups", .nat (w.clean.callsOf n))]))),
     ("connects", .nat w.dialer.log.length), ("db", .arr (sent.map Sent.toJson))]
  .obj (if r.scripted then base ++ [("maintenance_loads", .nat w.loads)] else base)

/-- Runs the steps in order, each answer beside the report after it. -/
def runSteps (fault : Fault → Json) : List Json → WorkerRun → BackendM (List Json × WorkerRun)
  | [], r => return ([], r)
  | j :: rest, r => do
    let (a, r) ← r.step fault j
    let w ← r.worker.settle r.now
    let r := { r with worker := w }
    let e := Simulation.entry a (r.report (← Backend.takeSent))
    let (out, r) ← runSteps fault rest r
    return (e :: out, r)

end WorkerRun

/-- Reads the settings of a run: its configuration, read and checked. -/
def Simulation.settings (j : Json) : Except Fault Settings := do
  Config.resolve (some (← Config.decode "config.json" (j.textOr "config" "")))

/-- Runs a worker run written as JSON; a run that cannot be set up is refused with the
reason. -/
def Simulation.worker (fault : Fault → Json) (j : Json) : Except String Json := do
  let s ← (Simulation.settings j).mapError (·.message)
  let pid := j.intOr "pid" 4242
  if pid == 0 then throw "pid must not be 0"
  let now := Simulation.clock j
  let types := j.items "types"
  let reg : Except Fault (Registry JobType) := types.foldlM (fun reg t =>
    reg.register (t.textOr "name" "") (.scripted (ScriptedType.ofJson t))) ⟨[]⟩
  match reg.bind fun reg => Catalog.ofSettings reg s with
  | .error f => return fault f
  | .ok cat =>
    let source : ModeSource := match j.field "maintenance" with
      | .str "table" => .table ""
      | m => .scripted (((m.arr?).getD []).map fun a => match a.field "error" with
        | .str e => .error e
        | _ => .ok (Mode.ofJson a))
    let info : CleanupInfo := (CleanupInfo.setPid {} (j.intOr "info_pid" 0)).setTime
      (match Layout.rfc3339.parse (j.textOr "info_time" "") with
        | .ok t => t.instant
        | .error _ => Instant.zero)
    let term := match Layout.rfc3339.parse (j.textOr "terminating_time" "") with
      | .ok t => t.instant
      | .error _ => now.add (3600 * Instant.second)
    let dialer : Dialer := { script := (j.items "connects").filterMap Json.str? }
    let dialect := (Dialect.ofDriver? (j.textOr "dialect" "mysql")).getD Dialect.mysql
    let w := Worker.new s cat pid info term source dialer dialect (j.textOr "workspace_schema" "")
    let r : WorkerRun := ⟨w, WorkerLoop.start s now, now, types.map (·.textOr "name" ""),
      match source with
      | .table _ => false
      | _ => true⟩
    let ((out, r), _) := (WorkerRun.runSteps fault (j.items "steps") r) { db := ScriptedDb.ofJson (j.field "db") }
    let log := r.worker.dialer.log
    return .obj [("result", .obj [("steps", .arr out),
      ("connect_log", if log.isEmpty then .null
        else .arr (log.map fun (old, m) => .obj [("old", .bool old), ("mode", .str m)]))])]

end Foreman

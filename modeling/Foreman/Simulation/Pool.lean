import Foreman.Simulation.Basic
import Foreman.Workers.Pool
import Foreman.Cleanup.Elect

/-!
# Simulated runs of the worker pool

A pool run starts workers from a launcher, moves the clock, lets processes leave, signals
workers or the pool, and elects the clean-up worker, the holder kept beside the pool as the
shared record keeps it. It is `{size, acceptable_ms, first_pid, spawn_fail, procs, info_pid,
now, steps}`, `procs` giving by pid or `default` how a process answers `on_sigint`,
`on_sigterm`, `on_kill` (`exit`, `ignore`, or `error` for a refused signal). Each step
reports every worker started with status, terminating time, signals received and
acceptability, then the pool's counts, the holder and the size.
-/

namespace Foreman

inductive PoolStep where
  | add
  | reap
  | advance (ms : Int)
  | exit (pid : Int)
  | elect
  | setHolder (pid : Int)
  /-- Stops the whole pool with a signal. -/
  | stop (s : Signal)
  /-- Sends a signal to one worker. -/
  | send (pid : Int) (s : Signal)
  /-- Waits for one worker under a deadline. -/
  | wait (pid : Int)
  | unknown (name : String)

def PoolStep.ofJson (j : Json) : PoolStep :=
  let pid := j.intOr "pid" 0
  match j.textOr "do" "" with
  | "add" => .add
  | "reap" => .reap
  | "advance" => .advance (j.intOr "ms" 0)
  | "exit" => .exit pid
  | "elect" => .elect
  | "set_info_pid" => .setHolder pid
  | "graceful_terminate" => .stop .interrupt
  | "immediately_terminate" => .stop .terminate
  | "sub_graceful" => .send pid .interrupt
  | "sub_immediate" => .send pid .terminate
  | "sub_kill" => .send pid .kill
  | "sub_wait" => .wait pid
  | other => .unknown other

def Reaction.ofText : String → Reaction
  | "ignore" => .ignore
  | "error" => .refuse
  | _ => .exit

def Reactions.ofJson (j : Json) : Reactions :=
  ⟨Reaction.ofText (j.textOr "on_sigint" "exit"), Reaction.ofText (j.textOr "on_sigterm" "exit"),
    Reaction.ofText (j.textOr "on_kill" "exit")⟩

/-- Reads a launcher: `first_pid` (1001 unless given), the failing launches `spawn_fail`,
and the reactions `procs` by process id or for the `default`. -/
def Launcher.ofJson (j : Json) : Launcher :=
  let procs := j.members "procs"
  let reactions := procs.filterMap fun (k, v) => k.toInt?.map fun pid => (pid, Reactions.ofJson v)
  let fallback := ((procs.lookup "default").map Reactions.ofJson).getD {}
  let failing := (j.items "spawn_fail").filterMap fun n => n.int?.map Int.toNat
  ⟨j.intOr "first_pid" 1001, failing, reactions, fallback, 0⟩

inductive PoolAnswer where
  /-- The step answers nothing. -/
  | nothing
  /-- The step succeeded or failed. -/
  | done (err : Option Fault)
  | started (w : PoolMember)
  | failed (f : Fault)
  | elected (changed : Bool)
  | refused (step : String)

/-- A pool, its clock, and the process id of the clean-up holder (0 for none). -/
structure PoolRun where
  pool : Pool
  now : Instant
  holder : Int

namespace PoolRun

def ofJson (j : Json) : PoolRun :=
  ⟨Pool.new (Launcher.ofJson j) (j.intOr "size" 1) (Simulation.millis (j.intOr "acceptable_ms" 0)),
    Simulation.clock j, j.intOr "info_pid" 0⟩

def step (r : PoolRun) : PoolStep → PoolAnswer × PoolRun
  | .add =>
    match r.pool.add r.now with
    | (.ok w, p) => (.started w, { r with pool := p })
    | (.error e, p) => (.failed e, { r with pool := p })
  | .reap => (.nothing, { r with pool := r.pool.reap r.now })
  | .advance ms => (.nothing, { r with now := r.now.add (Simulation.millis ms) })
  | .exit pid => (.nothing, { r with pool := (r.pool.onWorker pid fun w => (none, w.exit)).2 })
  | .elect =>
    match electCleanup r.holder (r.pool.isAcceptable r.now) (r.pool.longestAcceptable r.now) with
    | some pid => (.elected true, { r with holder := pid })
    | none => (.elected false, r)
  | .setHolder pid => (.nothing, { r with holder := pid })
  | .stop s =>
    let (e, p) := r.pool.terminate r.now s
    (.done e, { r with pool := p })
  | .send pid s =>
    let (e, p) := r.pool.onWorker pid (·.signal s)
    (.done e, { r with pool := p })
  | .wait pid =>
    let (e, _) := r.pool.onWorker pid fun w => (w.wait, w)
    (.done e, r)
  | .unknown name => (.refused name, r)

def report (r : PoolRun) : Json :=
  let worker (w : PoolMember) : Json :=
    .obj [("pid", .int w.pid), ("status", .str (w.status r.now).name),
      ("terminating_time", .str w.terminatingTime.rfc3339),
      ("signals", .strs (w.process.received.map Signal.label)),
      ("is_acceptable", .bool (r.pool.isAcceptable r.now w.pid))]
  .obj [("procs", .arr (r.pool.workers.map worker)), ("len", .nat (r.pool.len r.now)),
    ("count_acceptable", .nat (r.pool.count r.now .acceptable)),
    ("longest_acceptable_pid", .int (r.pool.longestAcceptable r.now)),
    ("info_pid", .int r.holder), ("size", .nat r.pool.size)]

end PoolRun

def PoolAnswer.toJson (fault : Fault → Json) : PoolAnswer → Option Json
  | .nothing => none
  | .done e => some ((e.map fault).getD .null)
  | .started w => some (.obj [("pid", .int w.pid), ("terminating_time", .str w.terminatingTime.rfc3339)])
  | .failed f => some (fault f)
  | .elected b => some (.bool b)
  | .refused name => some (fault (.plain ("unknown step " ++ name)))

/-- Runs the steps in order, each answer beside the report after it. -/
def PoolRun.run (fault : Fault → Json) : PoolRun → List Json → List Json
  | _, [] => []
  | r, s :: rest =>
    let (a, r) := r.step (PoolStep.ofJson s)
    Simulation.entry (a.toJson fault) r.report :: PoolRun.run fault r rest

def Simulation.pool (fault : Fault → Json) (j : Json) : Json :=
  .obj [("result", .arr (PoolRun.run fault (PoolRun.ofJson j) (j.items "steps")))]

end Foreman

import Foreman.Simulation.Pool
import Foreman.Simulation.Worker
import Foreman.Workers.Supervisor

/-!
# Simulated runs of the supervisor

A run is `{config, first_pid, spawn_fail, procs, checks, info_pid, now, real_clock, steps}`:
the configuration gives the pool's size and window, the launcher is read as in a pool run, and
`checks` answers the record's health checks. Steps: `fill` (a round), `advance {ms}`,
`exit {pid}`, `graceful`, `immediate`, and `run {cancel_ctx, then, escalate}`, `then`
(`graceful`, `immediate` or `cancel`) asked after the first status, `escalate` asking to stop
at once when a worker was interrupted. The report lists every worker with whether it exited,
its signals and acceptability; the terminating times given, the pool's counts, the holder,
the notices, the health checks and the clock. On the wall clock only what does not depend
on it is reported.
-/

namespace Foreman

structure SupervisorRun where
  supervisor : Supervisor
  now : Instant
  wallClock : Bool

namespace SupervisorRun

/-- Runs one step: its answer, if it has one. -/
def step (r : SupervisorRun) (fault : Fault → Json) (j : Json) : Option Json × SupervisorRun :=
  let v := r.supervisor
  let answer (e : Option Fault) : Option Json := some ((e.map fault).getD .null)
  match j.textOr "do" "" with
  | "fill" =>
    let (e, v) := v.fill r.now
    (answer e, { r with supervisor := v })
  | "advance" => (none, { r with now := r.now.add (Simulation.millis (j.intOr "ms" 0)) })
  | "exit" =>
    let p := (v.pool.onWorker (j.intOr "pid" 0) fun w => (none, w.exit)).2
    (none, { r with supervisor := { v with pool := p } })
  | "graceful" => (none, { r with supervisor := { v with graceful := true } })
  | "immediate" => (none, { r with supervisor := { v with immediate := true } })
  | "run" =>
    let request : Option StopRequest := match j.textOr "then" "" with
      | "graceful" => some .graceful
      | "immediate" => some .immediate
      | "cancel" => some .cancel
      | _ => none
    match v.run r.now (j.flag "cancel_ctx") request (j.flag "escalate") 16 with
    | some (e, v) => (answer e, { r with supervisor := v })
    | none => (some (fault (.plain "supervisor did not stop")), r)
  | other => (some (fault (.plain ("unknown step " ++ other))), r)

def report (r : SupervisorRun) : Json :=
  let p := r.supervisor.pool
  let member (w : PoolMember) : Json :=
    .obj [("pid", .int w.pid), ("exited", .bool w.process.exited),
      ("signals", .strs (w.process.received.map Signal.label)),
      ("is_acceptable", .bool (p.isAcceptable r.now w.pid))]
  let common : List (String × Json) :=
    [("procs", .arr (p.workers.map member)), ("len", .nat (p.len r.now)),
     ("info_pid", .int r.supervisor.info.pid), ("checks", .nat r.supervisor.checks)]
  if r.wallClock then .obj common
  else .obj (common ++
    [("spawn_terms", .strs (p.workers.map (·.terminatingTime.rfc3339))),
     ("count_acceptable", .nat (p.count r.now .acceptable)),
     ("notify", .strs (r.supervisor.notices.map Notice.text)), ("now", .str r.now.rfc3339)])

/-- Runs the steps in order, each answer beside the report after it. -/
def run (fault : Fault → Json) : SupervisorRun → List Json → List Json
  | _, [] => []
  | r, j :: rest =>
    let (a, r) := r.step fault j
    Simulation.entry a r.report :: SupervisorRun.run fault r rest

end SupervisorRun

/-- Runs a supervisor run written as JSON; a run that cannot be set up is refused with the
reason. -/
def Simulation.supervisor (fault : Fault → Json) (j : Json) : Except String Json := do
  let s ← (Simulation.settings j).mapError (·.message)
  let info : CleanupInfo := CleanupInfo.setPid {} (j.intOr "info_pid" 0)
  let v := Supervisor.new s (Launcher.ofJson j) info ((j.items "checks").filterMap Json.str?)
  let r : SupervisorRun := ⟨v, Simulation.clock j, j.flag "real_clock"⟩
  return .obj [("result", .arr (SupervisorRun.run fault r (j.items "steps")))]

end Foreman

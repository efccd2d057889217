import Foreman.Simulation.Worker
import Foreman.Runtime.Routine

/-!
# Simulated runs of a routine group

A run is `{cancel_on_error, steps}`, steps `go {name, mode}`,
`go_restart {name, mode, max_restarts, cancel_in_backoff}`, `release {name, result}`,
`cancel {cause}`, `wait` and `stop`, a body behaving as its mode says. Each step reports the
snapshot; waiting and stopping also their answer, the first failure and the context's cause.
-/

namespace Foreman

namespace RoutineGroup

def snapshotJson (g : RoutineGroup) : Json :=
  .arr (g.snapshot.map fun (n, s) =>
    .obj [("name", .str n), ("active", .nat s.active), ("started", .nat s.started),
      ("restarts", .nat s.restarts), ("panics", .nat s.panics), ("last_err", .str s.lastErr)])

def simulate (g : RoutineGroup) (fault : Fault → Json) (j : Json) : Json × RoutineGroup :=
  let errJson (e : Option Fault) : Json := (e.map fault).getD .null
  let waited (res : Option Fault) (g : RoutineGroup) : Json × RoutineGroup :=
    (.obj [("result", errJson res), ("err", errJson g.firstErr), ("ctx", errJson g.ctx.interrupted),
      ("snapshot", g.snapshotJson)], g)
  let plain (g : RoutineGroup) : Json × RoutineGroup := (.obj [("snapshot", g.snapshotJson)], g)
  let name := j.textOr "name" ""
  match j.textOr "do" "" with
  | "go" => plain (g.go name (Behaviour.ofTextOr (j.textOr "mode" "") "ok"))
  | "go_restart" =>
    plain (g.goRestart name (Behaviour.ofTextOr (j.textOr "mode" "") "ok") (j.intOr "max_restarts" 0)
      (Fault.ofCause (j.textOr "cancel_in_backoff" "")))
  | "release" => plain (g.release name (Behaviour.outcome (j.textOr "result" "")))
  | "cancel" => plain (g.cancel ((Fault.ofCause (j.textOr "cause" "")).getD Fault.canceled))
  | "stop" =>
    let (res, g) := g.stop
    waited res g
  | _ => waited g.wait g

end RoutineGroup

def Simulation.routine (fault : Fault → Json) (j : Json) : Json :=
  let g : RoutineGroup := { cancelOnError := j.flag "cancel_on_error" }
  let (out, _) := (j.items "steps").foldl (fun (out, g) s =>
    let (r, g) := g.simulate fault s
    (out ++ [r], g)) (([] : List Json), g)
  .obj [("result", .arr out)]

end Foreman

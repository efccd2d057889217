import Foreman.Simulation.Basic
import Foreman.Workers.Command
import Foreman.Time.Layout

/-!
# Simulated program starts

A start is `{path, args, no_args, terminating_time, steps}`: the program starts with `args`
(none at all with `no_args`), asked for with the terminating time (2024-01-01T00:00:00Z
unless given). Steps: `sigterm`, `sigint`, `kill`, `wait {timeout_ms}` (2000 unless given)
answering `exited` or `running`, and `running`. The answer lists the steps' answers and the
terminating times asked for, or the failure to start.
-/

namespace Foreman

def Simulation.spawn (fault : Fault → Json) (j : Json) : Json :=
  let host : Host := {}
  let term := match Layout.rfc3339.parse (j.textOr "terminating_time" "2024-01-01T00:00:00Z") with
    | .ok s => s.instant
    | .error _ => Instant.zero
  let args := (j.items "args").filterMap Json.str?
  let asked : Json := if j.flag "no_args" then .null else .arr [.str term.rfc3339]
  let args := if j.flag "no_args" then [] else args
  match host.resolve (j.textOr "path" "") with
  | .error e => fault (.plain ("spawn worker: " ++ e))
  | .ok path =>
    match host.start path with
    | some e => fault (.plain ("spawn worker: " ++ e))
    | none =>
      let p : Started := ⟨1000, Program.lifetime path args⟩
      let step (st : Started × Int) (s : Json) : Json × (Started × Int) :=
        let (p, now) := st
        match s.textOr "do" "" with
        | "running" => (.bool (p.running now), (p, now))
        | "wait" =>
          let (ended, now) := p.wait now (Simulation.millis (s.intOr "timeout_ms" 2000))
          (.str (if ended then "exited" else "running"), (p, now))
        | "sigterm" | "sigint" | "kill" => (.null, (p.signal now, now))
        | _ => (.null, (p, now))
      let (out, _) := (j.items "steps").foldl (fun (out, st) s =>
        let (a, st) := step st s
        (out ++ [a], st)) (([] : List Json), (p, (0 : Int)))
      .obj [("result", .obj [("steps", .arr out), ("args_called_with", asked),
        ("pid_positive", .bool (p.pid > 0))])]

end Foreman

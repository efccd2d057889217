import Foreman.Simulation.Basic
import Foreman.Workers.Notify

/-!
# Simulated notifications

A run is `{send, steps}`: the sink records (`ok`), fails with a text (`error:<text>`) or is
absent (`zero`). Steps: `ready`, `stopping`, `status {msg}`, `watchdog {usec, pid,
timeout_ms}` (`pid` empty, `self` or a text; 50 ms unless given). Each answers its failure (or
`null`) and the lines sent but watchdog pings; the watchdog also tells whether it pinged.
-/

namespace Foreman

def Simulation.selfPid : Int := 4242

def Simulation.notify (fault : Fault → Json) (j : Json) : Json :=
  let sink : NotifySink := match j.textOr "send" "ok" with
    | "ok" => .recording
    | "zero" => .absent
    | s => if s.startsWith "error:" then .failing (String.ofList (s.toList.drop 6)) else .recording
  let failure (e : Option Fault) : Json := (e.map fault).getD .null
  let step (n : Notifier) (s : Json) : Json × Notifier :=
    let n0 : Notifier := { n with sent := [] }
    let report (e : Option Fault) (n : Notifier) (more : List (String × Json)) : Json :=
      .obj ([("result", failure e), ("sent", .arr ((n.sent.filter (· != "WATCHDOG=1")).map Json.str))] ++ more)
    match s.textOr "do" "" with
    | "ready" => let (e, n) := n0.ready; (report e n [], n)
    | "stopping" => let (e, n) := n0.stopping; (report e n [], n)
    | "status" => let (e, n) := n0.status (s.textOr "msg" ""); (report e n [], n)
    | "watchdog" =>
      let pid := match s.textOr "pid" "" with
        | "self" => toString Simulation.selfPid
        | p => p
      let (e, pinged, n) := n0.watchdog (s.textOr "usec" "") pid Simulation.selfPid
        (Simulation.millis (s.intOr "timeout_ms" 50))
      (report e n [("pinged", .bool pinged)], n)
    | _ => (report none n0 [], n0)
  let (out, _) := (j.items "steps").foldl (fun (out, n) s =>
    let (a, n) := step n s
    (out ++ [a], n)) (([] : List Json), ({ sink := sink } : Notifier))
  .obj [("result", .arr out)]

end Foreman

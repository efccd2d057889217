import Foreman.Simulation.Basic
import Foreman.Service.Session

/-!
# Simulated sessions with the program

A session is `{args, files, notify, stderr, list_files, steps}`: the program runs with `args`
in a directory holding `files`, a service manager listening on `notify.sock` when `notify`
holds. Steps: `wait_notify {state}`, `signal {sig}` (`INT` or `TERM`), `write {file, text}`,
`remove_glob {pattern}`, `wait_log {file, contains, count}` (count one unless given),
`wait_exit`. The answer: the exit code (-1 when killed, the signal named), standard output as
lines, the messages by name, the steps' answers, standard error as lines when `stderr` holds,
and the sorted paths the `list_files` patterns find at the end (`null` for none).
-/

namespace Foreman

namespace Simulation

def sessionClock : Instant :=
  match Layout.rfc3339.parse "2026-01-01T00:00:00Z" with
  | .ok s => s.instant
  | .error _ => Instant.zero

/-- Runs one step of a session with the process `pid`: its answer. -/
def sessionStep (pid : Nat) (s : Json) : HostM Json := do
  match s.textOr "do" "" with
  | "wait_notify" => return .bool (← ServiceHost.waitNotice (s.textOr "state" ""))
  | "signal" =>
    let sig := if s.textOr "sig" "" == "TERM" then StopSignal.terminate else StopSignal.interrupt
    match ← ServiceHost.signal pid sig with
    | some e => return .obj [("error", .str "error"), ("message", .str e)]
    | none => return .null
  | "write" =>
    ServiceHost.writeFile (s.textOr "file" "") (s.textOr "text" "")
    return .null
  | "remove_glob" => return .int (← ServiceHost.removeMatching (s.textOr "pattern" ""))
  | "wait_log" =>
    let count := (s.intOr "count" 1).toNat
    return .bool (← ServiceHost.waitLog (s.textOr "file" "") (s.textOr "contains" "") count)
  | "wait_exit" => return .bool (← ServiceHost.waitExit pid)
  | _ => return .null

def cli (j : Json) : Json :=
  let files := (j.members "files").foldl (fun fs (name, text) => fs.write name ((text.str?).getD "")) ({} : FileSpace)
  let files := if j.flag "notify" then files.write "notify.sock" "" else files
  let host : ServiceHost :=
    { files := files, now := sessionClock, notices := if j.flag "notify" then some [] else none }
  let args := (j.items "args").filterMap Json.str?
  let run : HostM (Nat × List Json × Bool) := do
    let pid ← ServiceHost.launch args
    let answers ← (j.items "steps").mapM (sessionStep pid)
    let killed ← ServiceHost.close pid
    return (pid, answers, killed)
  let ((pid, answers, killed), h) := run host
  let code : Int := if killed then -1 else ((h.exitOf pid).getD 0 : Nat)
  let lines (s : String) : Json := .arr ((textLines s).map Json.str)
  let stderr := if j.flag "stderr" then [("stderr", lines h.stderr)] else []
  let listed := match j.field "list_files" with
    | .arr pats =>
      let found := (pats.filterMap Json.str?).flatMap h.files.glob
      let found := found.mergeSort fun a b => decide (a ≤ b)
      [("files", if found.isEmpty then Json.null else .arr (found.map Json.str))]
    | _ => []
  let signal := if killed then [("signal", Json.str "killed")] else []
  .obj [("result", .obj ([("exit_code", .int code), ("stdout", lines h.stdout),
    ("notify", .arr (h.noticeNames.map Json.str)), ("steps", .arr answers)] ++ stderr ++ listed ++ signal))]

end Simulation

end Foreman

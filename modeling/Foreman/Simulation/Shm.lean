import Foreman.Simulation.Basic
import Foreman.Cleanup.Record
import Foreman.Time.Layout

/-!
# Simulated clean-up records

A run is `{steps}` over an empty directory, handles named by the steps: `create {path, h}` and
`attach {path, h}` answer `ok` or the failure, `write_file {path, data}` writes a text file,
`set_pid {h, pid}` and `set_time {h, time}` (RFC 3339, or `null` for none) write the record,
`get {h}` reads it as `{pid, time}`, and `check`, `close`, `remove`, `path` act on a handle.
-/

namespace Foreman

structure RecordRun where
  disk : RecordDisk := {}
  handles : List (String × RecordHandle) := []

namespace RecordRun

/-- Names a handle. -/
def bind (r : RecordRun) (name : String) (h : RecordHandle) : RecordRun :=
  { r with handles := (name, h) :: r.handles.filter (·.1 != name) }

/-- Runs one step: its answer and the run after it. -/
def step (fault : Fault → Json) (r : RecordRun) (j : Json) : Json × RecordRun :=
  let name := j.textOr "h" ""
  let path := j.textOr "path" ""
  let failure (m : Option String) : Json := match m with
    | some m => fault (.plain m)
    | none => .null
  match j.textOr "do" "", r.handles.lookup name with
  | "create", _ =>
    match r.disk.create path with
    | .ok (h, d) => (.str "ok", { r with disk := d }.bind name h)
    | .error e => (fault (.plain e), r)
  | "attach", _ =>
    match r.disk.attach path with
    | .ok h => (.str "ok", r.bind name h)
    | .error e => (fault (.plain e), r)
  | "write_file", _ => (.null, { r with disk := r.disk.writeText path (j.textOr "data" "") })
  | "set_pid", some h => (.null, { r with disk := r.disk.write h ((r.disk.read h).setPid (j.intOr "pid" 0)) })
  | "set_time", some h =>
    let t := match Layout.rfc3339.parse (j.textOr "time" "") with
      | .ok s => s.instant
      | .error _ => Instant.zero
    (.null, { r with disk := r.disk.write h ((r.disk.read h).setTime t) })
  | "get", some h =>
    let i := r.disk.read h
    (.obj [("pid", .int i.pid), ("time", .str i.time.rfc3339)], r)
  | "check", some h => (failure (r.disk.check h), r)
  | "close", some h => (.null, r.bind name { h with mapped := false })
  | "remove", some h =>
    let (e, h, d) := r.disk.remove h
    ((e.map fault).getD .null, { r with disk := d }.bind name h)
  | "path", some h => (.str h.path, r)
  | _, _ => (.null, r)

end RecordRun

def Simulation.records (fault : Fault → Json) (j : Json) : Json :=
  let (out, _) := (j.items "steps").foldl (fun (out, r) s =>
    let (a, r) := RecordRun.step fault r s
    (out ++ [a], r)) (([] : List Json), ({} : RecordRun))
  .obj [("result", .arr out)]

end Foreman

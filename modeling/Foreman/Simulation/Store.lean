import Foreman.Simulation.Basic
import Foreman.Json.Print
import Foreman.Store.Scripted
import Foreman.Maintenance.Mode
import Foreman.Job.Row

/-!
# Scripted databases, rows and switches written as JSON

A scripted database is `{queries, execs, begin_error, commit_error}`; a query answers
`{error}` or `{columns, rows, rows_error}`, a statement `{error}` or `{rows_affected}`. A cell
is null, a text, a boolean, a number (an integer without fraction or exponent, else a float),
or `{time}` (RFC 3339), `{bytes}` or `{float}`.
-/

namespace Foreman

def SqlValue.ofJson : Json → SqlValue
  | .null => .null
  | .str s => .text s
  | .bool b => .bool b
  | .num lit => match (Json.num lit).int? with
    | some i => .int i
    | none => .float lit
  | j =>
    match j.field "time", j.field "bytes" with
    | .str t, _ =>
      match Layout.rfc3339.parse t with
      | .ok s => .time s.instant
      | .error _ => .null
    | _, .str b => .bytes b
    | _, _ => .float (j.field "float").render

def ScriptedDb.ofJson (j : Json) : ScriptedDb :=
  let opt (k : String) : Option String := (j.field k).str?
  let query (q : Json) : QueryReply :=
    match q.field "error" with
    | .str e => .failure e
    | _ => .rows ⟨(q.items "columns").filterMap Json.str?,
        (q.items "rows").map (fun r => ((r.arr?).getD []).map SqlValue.ofJson), (q.field "rows_error").str?⟩
  let exec (e : Json) : ExecReply :=
    match e.field "error" with
    | .str m => .failure m
    | _ => .affected (e.intOr "rows_affected" 0)
  { queries := (j.items "queries").map query, execs := (j.items "execs").map exec,
    beginError := opt "begin_error", commitError := opt "commit_error" }

def QueueRow.ofJson (j : Json) : QueueRow :=
  { org := j.textOr "org" "", ws := j.textOr "ws" "", job := j.textOr "job" "", key := j.textOr "key" "" }

/-- Reads the maintenance switches: `{data_update_stop, backyard_execute_stop}`. -/
def Mode.ofJson (j : Json) : Mode := ⟨j.flag "data_update_stop", j.flag "backyard_execute_stop"⟩

/-- The fault a cause name stands for: `timeout`, `terminate`, `canceled`, `deadline`, or any
other text as a plain failure; the empty name is no fault. -/
def Fault.ofCause : String → Option Fault
  | "" => none
  | "timeout" => some Fault.jobTimeout
  | "terminate" => some Fault.jobTerminate
  | "canceled" => some Fault.canceled
  | "deadline" => some Fault.deadline
  | t => some (Fault.plain t)

end Foreman

import Foreman.Store.Backend
import Foreman.Job.Catalog
import Foreman.Job.Row
import Foreman.Job.Schema
import Foreman.Config.Decode
import Foreman.Script.Behaviour
import Foreman.Text.Split

/-!
# The history job

A history job runs rows of a tenant's history table: waiting (`1`), running (`2`), then done
(`3`) or failed (`4`); the ready view lists waiting and running rows.

* Its ready rows are the view's waiting rows in every schema defining it.
* Starting reads the status under a lock that does not wait and marks a waiting row
  running; any other status, or no row, is left alone.
* Running does the work and records done or failed, unless the scheduler interrupted it.
* Cancelling fails a running row, never a finished one.
* The clean-up fails rows left running longer than the job timeout.

Every update stamps the time, and the configured user when a user column is set. Table,
view and column names come from the extra settings, menu creation's standing for empty ones.
-/

namespace Foreman

structure HistoryTable where
  table : String := ""
  view : String := ""
  keyColumn : String := ""
  statusColumn : String := ""
  userColumn : String := ""
  user : String := ""
  deriving BEq, Inhabited

namespace HistoryTable

def waiting : String := "1"
def running : String := "2"
def done : String := "3"
def failed : String := "4"

def withDefaults (t : HistoryTable) : HistoryTable :=
  { t with
    table := if t.table == "" then "T_MENU_CREATE_HISTORY" else t.table
    view := if t.view == "" then "V_MENU_CREATE_HISTORY" else t.view
    keyColumn := if t.keyColumn == "" then "HISTORY_ID" else t.keyColumn
    statusColumn := if t.statusColumn == "" then "STATUS_ID" else t.statusColumn }

def fields : List (Field HistoryTable) :=
  [⟨"table", fun p t w => do pure { t with table := ← Field.text t.table p w }⟩,
   ⟨"view", fun p t w => do pure { t with view := ← Field.text t.view p w }⟩,
   ⟨"key_column", fun p t w => do pure { t with keyColumn := ← Field.text t.keyColumn p w }⟩,
   ⟨"status_column", fun p t w => do pure { t with statusColumn := ← Field.text t.statusColumn p w }⟩,
   ⟨"user_column", fun p t w => do pure { t with userColumn := ← Field.text t.userColumn p w }⟩,
   ⟨"user", fun p t w => do pure { t with user := ← Field.text t.user p w }⟩]

/-- The table of a job type, from its extra settings; a missing extra setting (or `null`)
gives the defaults. -/
def ofConfig (cfg : JobConfig) : Except Fault HistoryTable :=
  match cfg.extra with
  | none => .ok (withDefaults {})
  | some "" => .ok (withDefaults {})
  | some "null" => .ok (withDefaults {})
  | some text =>
    match Field.readLenient "historyjob.Extra" "Extra" fields {} text with
    | .ok t => .ok (withDefaults t)
    | .error e => .error (e.toFault.wrap (cfg.name ++ " extra"))

end HistoryTable

/-- The business logic of a history row: how it ends under a context. -/
inductive HistoryWork where
  /-- Completes at once. -/
  | complete
  /-- Fails with a message. -/
  | fail (msg : String)
  /-- Panics with a message. -/
  | panic (msg : String)
  /-- Reports the context's interruption, or success while it is live. -/
  | checkInterrupt
  /-- Fails with a given fault. -/
  | failWith (f : Fault)
  deriving Inhabited

namespace HistoryWork

/-- How the work ends under `ctx`. -/
def run (w : HistoryWork) (ctx : Ctx) : Outcome (Option Fault) :=
  match w with
  | .complete => .returned none
  | .fail m => .returned (some (.plain m))
  | .panic m => .panicked m
  | .checkInterrupt => .returned ctx.interrupted
  | .failWith f => .returned (some f)

end HistoryWork

structure HistoryRun where
  row : QueueRow
  table : HistoryTable
  work : HistoryWork := .complete
  deriving Inhabited

namespace HistoryJob

/-- The waiting rows of the view in every schema, tagged with the job's name. -/
def unionWhere (d : Dialect) (schemas : List String) (view jobName clause : String) : String :=
  let u := viewUnion d schemas view jobName
  if u == "" then ""
  else " UNION ALL ".intercalate ((Text.splitOn u " UNION ALL ").map (· ++ " WHERE " ++ clause))

def queueQuery (ctx : Ctx) (h : Handle) (cfg : JobConfig) : BackendM (Except Fault String) := do
  match HistoryTable.ofConfig cfg with
  | .error e => return .error e
  | .ok t =>
    match ← Backend.viewSchemas ctx h.dialect t.view with
    | .error e => return .error e
    | .ok schemas =>
      return .ok (unionWhere h.dialect schemas t.view cfg.name
        ("JOB_STATUS = '" ++ HistoryTable.waiting ++ "'"))

def new (row : QueueRow) (cfg : JobConfig) (work : HistoryWork) : Except Fault HistoryRun :=
  (HistoryTable.ofConfig cfg).map fun t => ⟨row, t, work⟩

end HistoryJob

namespace HistoryRun

def tableName (r : HistoryRun) (h : Handle) : String :=
  h.workspaceTable r.row.org r.row.ws r.table.table

/-- The statement that moves the row to status `target`, only from status `source` when it is not
empty, and its arguments. -/
def statusUpdate (r : HistoryRun) (h : Handle) (now : Instant) (target source : String) :
    String × List SqlValue :=
  let t := r.table
  let (q, args) := ("UPDATE " ++ r.tableName h ++ " SET " ++ t.statusColumn ++ " = ?, LAST_UPDATE_TIMESTAMP = ?",
    [SqlValue.text target, .time now])
  let (q, args) := if t.userColumn == "" then (q, args)
    else (q ++ ", " ++ t.userColumn ++ " = ?", args ++ [.text t.user])
  let (q, args) := (q ++ " WHERE " ++ t.keyColumn ++ " = ?", args ++ [.text r.row.key])
  let (q, args) := if source == "" then (q, args)
    else (q ++ " AND " ++ t.statusColumn ++ " = ?", args ++ [.text source])
  (h.rebind q, args)

def setStatus (r : HistoryRun) (ctx : Ctx) (h : Handle) (now : Instant) (target source : String) :
    BackendM (Except Fault Unit) := do
  let (q, args) := r.statusUpdate h now target source
  let res ← Backend.onDb (ScriptedDb.exec ctx q args)
  return res.map fun _ => ()

def statusQuery (r : HistoryRun) (h : Handle) : String :=
  h.rebind ("SELECT " ++ r.table.statusColumn ++ " FROM " ++ r.tableName h ++ " WHERE " ++
    r.table.keyColumn ++ " = ?" ++ h.dialect.lockNoWait)

/-- Takes the row if it is waiting: whether it was taken, and the failure on the way. A
failed commit still reports the row as taken. -/
def start (r : HistoryRun) (ctx : Ctx) (h : Handle) (now : Instant) :
    BackendM (Bool × Option Fault) := do
  match ← Backend.onDb (ScriptedDb.begin ctx) with
  | .error e => return (false, some e)
  | .ok () =>
    let abort (res : Bool × Option Fault) : BackendM (Bool × Option Fault) := do
      Backend.onDb ScriptedDb.rollback
      return res
    match ← Backend.onDb (ScriptedDb.query ctx (r.statusQuery h) [.text r.row.key]) with
    | .error e => abort (false, some e)
    | .ok rs =>
      match rs.first 1 (fun vs => Scan.col vs 0 Scan.textOrNull) with
      | .error e => abort (false, some e)
      | .ok none => abort (false, none)
      | .ok (some status) =>
        if status.getD "" != HistoryTable.waiting then abort (false, none)
        else
          match ← r.setStatus ctx h now HistoryTable.running "" with
          | .error e => abort (false, some e)
          | .ok () =>
            match ← Backend.onDb ScriptedDb.commit with
            | .error e => return (true, some e)
            | .ok () => return (true, none)

/-- Does the row's work and records its end. An interruption by the scheduler under a
cancelled context is returned as it is, with the status left alone. -/
def execute (r : HistoryRun) (ctx : Ctx) (h : Handle) (now : Instant) :
    BackendM (Outcome (Option Fault)) := do
  match r.work.run ctx with
  | .panicked m => return .panicked m
  | .returned err =>
    match err with
    | some e =>
      if e.isInterrupt && ctx.done then return .returned (some e)
      else
        match ← r.setStatus ctx h now HistoryTable.failed HistoryTable.running with
        | .error u => return .returned (some (e.join u))
        | .ok () => return .returned (some e)
    | none =>
      match ← r.setStatus ctx h now HistoryTable.done HistoryTable.running with
      | .error u => return .returned (some u)
      | .ok () => return .returned none

def cancel (r : HistoryRun) (ctx : Ctx) (h : Handle) (now : Instant) : BackendM (Option Fault) := do
  match ← r.setStatus ctx h now HistoryTable.failed HistoryTable.running with
  | .error e => return some e
  | .ok () => return none

end HistoryRun

namespace HistoryJob

/-- Reads a stale row: organization, workspace and key, each possibly null. -/
def staleRow (vs : List SqlValue) : Except (Nat × String) (String × String × String) := do
  let o ← Scan.col vs 0 Scan.textOrNull
  let w ← Scan.col vs 1 Scan.textOrNull
  let k ← Scan.col vs 2 Scan.textOrNull
  return (o.getD "", w.getD "", k.getD "")

/-- Marks failed the stale rows in turn, stopping when the context is interrupted; a
failed update is passed over. -/
def failStale (ctx : Ctx) (h : Handle) (now : Instant) (cfg : JobConfig) (t : HistoryTable) :
    List (String × String × String) → BackendM (Option Fault)
  | [] => return none
  | (o, w, k) :: rest => do
    match ctx.interrupted with
    | some c => return some c
    | none =>
      let r : HistoryRun := ⟨{ org := o, ws := w, job := cfg.name, key := k }, t, .complete⟩
      let _ ← r.setStatus ctx h now HistoryTable.failed HistoryTable.running
      failStale ctx h now cfg t rest

/-- The query of the rows of every schema's view left running since before `cutoff`, and its
arguments. -/
def staleQuery (h : Handle) (schemas : List String) (view : String) (cutoff : Instant) :
    String × List SqlValue :=
  (h.rebind (" UNION ALL ".intercalate (schemas.map fun s =>
      "SELECT ORGANIZATION_ID, WORKSPACE_ID, JOB_KEY FROM " ++ h.dialect.qualify s view ++
        " WHERE JOB_STATUS = ? AND LAST_UPDATE_TIMESTAMP < ?")),
    schemas.flatMap fun _ => [SqlValue.text HistoryTable.running, .time cutoff])

/-- Marks failed the rows left running for longer than the job timeout. -/
def cleanUp (ctx : Ctx) (h : Handle) (now : Instant) (cfg : JobConfig) : BackendM (Option Fault) := do
  match HistoryTable.ofConfig cfg with
  | .error e => return some e
  | .ok t =>
    match ← Backend.viewSchemas ctx h.dialect t.view with
    | .error e => return some e
    | .ok [] => return none
    | .ok schemas =>
      let (q, args) := staleQuery h schemas t.view (now.add (-cfg.timeout))
      match ← Backend.onDb (ScriptedDb.query ctx q args) with
      | .error e => return some (e.wrap "clean up query")
      | .ok rs =>
        match rs.all 3 staleRow with
        | .error e => return some (e.wrap "clean up query")
        | .ok stale => failStale ctx h now cfg t stale

end HistoryJob

end Foreman

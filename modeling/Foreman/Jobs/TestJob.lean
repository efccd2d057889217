import Foreman.Store.Backend
import Foreman.Job.Catalog
import Foreman.Job.Row
import Foreman.Job.Schema
import Foreman.Config.Decode
import Foreman.Config.Duration
import Foreman.Script.Behaviour

/-!
# The test job

The test job waits the ticks its row gives and records the outcome in `T_TEST_JOB1`: from
`NOT_PROCESSING` to `EXECUTING`, ending `SUCCEED`, `FAILED` or `TIMEOUT`; the view
`V_TEST_JOB1` lists rows not yet processed.

* Starting reads status and ticks under a lock that does not wait and marks an unprocessed
  row executing; the ticks are kept once the transaction committed.
* Running fails a row with under one tick; otherwise it waits, stopping with the context's
  cause when interrupted, and marks the row succeeded.
* Cancelling times out an executing row; the clean-up, schema by schema, those executing
  longer than the job timeout.

A tick is the extra setting `tick`, one second by default.
-/

namespace Foreman

namespace TestJob

def table : String := "T_TEST_JOB1"
def view : String := "V_TEST_JOB1"

def notProcessing : String := "NOT_PROCESSING"
def executing : String := "EXECUTING"
def succeeded : String := "SUCCEED"
def failed : String := "FAILED"
def timedOut : String := "TIMEOUT"

def waitTooShort : Fault := .of .waitSeconds "WAIT_SECONDS must be at least 1"

def fields : List (Field String) :=
  [⟨"tick", fun _ _ w => Field.duration w⟩]

/-- The length of a tick in nanoseconds, from the extra settings. -/
def tickOf (cfg : JobConfig) : Except Fault Int := do
  let raw ← match cfg.extra with
    | none => pure ""
    | some "" => pure ""
    | some "null" => pure ""
    | some text =>
      (Field.readLenient "testjob.Extra" "Extra" fields "" text).mapError fun e =>
        e.toFault.wrap (cfg.name ++ " extra")
  DurationText.orDefault (cfg.name ++ ".extra.tick") raw 1000000000

def queueQuery (ctx : Ctx) (h : Handle) (cfg : JobConfig) : BackendM (Except Fault String) := do
  match ← Backend.viewSchemas ctx h.dialect view with
  | .error e => return .error e
  | .ok schemas => return .ok (viewUnion h.dialect schemas view cfg.name)

end TestJob

structure TestRun where
  row : QueueRow
  tick : Int
  /-- The ticks to wait, known once the row was taken. -/
  waitTicks : Int := 0
  deriving Inhabited

namespace TestJob

/-- The run of one row. -/
def new (row : QueueRow) (cfg : JobConfig) : Except Fault TestRun :=
  (tickOf cfg).map fun tick => ⟨row, tick, 0⟩

end TestJob

namespace TestRun

def tableName (r : TestRun) (h : Handle) : String :=
  h.workspaceTable r.row.org r.row.ws TestJob.table

/-- The statement that moves the row to status `target`, only from status `source` when it is
not empty, and its arguments. -/
def statusUpdate (r : TestRun) (h : Handle) (now : Instant) (target source : String) :
    String × List SqlValue :=
  let q := "UPDATE " ++ r.tableName h ++ " SET STATUS = ?, LAST_UPDATE_TIMESTAMP = ? WHERE DATA_KEY = ?"
  let args := [SqlValue.text target, .time now, .text r.row.key]
  let (q, args) := if source == "" then (q, args) else (q ++ " AND STATUS = ?", args ++ [.text source])
  (h.rebind q, args)

/-- Moves the row to status `target`, only from status `source` when it is not empty. -/
def setStatus (r : TestRun) (ctx : Ctx) (h : Handle) (now : Instant) (target source : String) :
    BackendM (Except Fault Unit) := do
  let (q, args) := r.statusUpdate h now target source
  let res ← Backend.onDb (ScriptedDb.exec ctx q args)
  return res.map fun _ => ()

/-- The query that reads the row's status and ticks under a lock. -/
def statusQuery (r : TestRun) (h : Handle) : String :=
  h.rebind ("SELECT STATUS, WAIT_SECONDS FROM " ++ r.tableName h ++ " WHERE DATA_KEY = ?" ++
    h.dialect.lockNoWait)

def readStatus (vs : List SqlValue) : Except (Nat × String) (String × Option Int) := do
  let s ← Scan.col vs 0 Scan.text
  let w ← Scan.col vs 1 Scan.intOrNull
  return (s, w)

/-- Takes the row if it was not yet processed: whether it was taken, the failure on the way,
and the run with its ticks once taken. -/
def start (r : TestRun) (ctx : Ctx) (h : Handle) (now : Instant) :
    BackendM ((Bool × Option Fault) × TestRun) := do
  match ← Backend.onDb (ScriptedDb.begin ctx) with
  | .error e => return ((false, some e), r)
  | .ok () =>
    let abort (e : Option Fault) : BackendM ((Bool × Option Fault) × TestRun) := do
      Backend.onDb ScriptedDb.rollback
      return ((false, e), r)
    match ← Backend.onDb (ScriptedDb.query ctx (r.statusQuery h) [.text r.row.key]) with
    | .error e => abort (some e)
    | .ok rs =>
      match rs.first 2 readStatus with
      | .error e => abort (some e)
      | .ok none => abort none
      | .ok (some (status, wait)) =>
        if status != TestJob.notProcessing then abort none
        else
          match ← r.setStatus ctx h now TestJob.executing "" with
          | .error e => abort (some e)
          | .ok () =>
            match ← Backend.onDb ScriptedDb.commit with
            | .error e => return ((false, some e), r)
            | .ok () => return ((true, none), { r with waitTicks := wait.getD 0 })

def execute (r : TestRun) (ctx : Ctx) (h : Handle) (now : Instant) : BackendM (Option Fault) := do
  if r.waitTicks < 1 then
    -- the failure to record is not reported: the short wait is
    let _ ← r.setStatus ctx h now TestJob.failed TestJob.executing
    return some TestJob.waitTooShort
  else
    match ctx.interrupted with
    | some c => return some c
    | none =>
      match ← r.setStatus ctx h now TestJob.succeeded TestJob.executing with
      | .error e => return some e
      | .ok () => return none

def cancel (r : TestRun) (ctx : Ctx) (h : Handle) (now : Instant) : BackendM (Option Fault) := do
  match ← r.setStatus ctx h now TestJob.timedOut TestJob.executing with
  | .error e => return some e
  | .ok () => return none

end TestRun

namespace TestJob

/-- The statement that times out the stale rows of one schema, and its arguments. -/
def staleUpdate (h : Handle) (s : String) (now cutoff : Instant) : String × List SqlValue :=
  (h.rebind ("UPDATE " ++ h.dialect.qualify s table ++
      " SET STATUS = ?, LAST_UPDATE_TIMESTAMP = ? WHERE STATUS = ? AND LAST_UPDATE_TIMESTAMP < ?"),
    [.text timedOut, .time now, .text executing, .time cutoff])

def timeOutStale (ctx : Ctx) (h : Handle) (now cutoff : Instant) :
    List String → BackendM (Option Fault)
  | [] => return none
  | s :: rest => do
    match ctx.interrupted with
    | some c => return some c
    | none =>
      let (q, args) := staleUpdate h s now cutoff
      match ← Backend.onDb (ScriptedDb.exec ctx q args) with
      | .error e => return some (e.wrap ("clean up " ++ s))
      | .ok _ => timeOutStale ctx h now cutoff rest

/-- Times out the rows left executing for longer than the job timeout. -/
def cleanUp (ctx : Ctx) (h : Handle) (now : Instant) (cfg : JobConfig) : BackendM (Option Fault) := do
  match ← Backend.viewSchemas ctx h.dialect view with
  | .error e => return some e
  | .ok schemas => timeOutStale ctx h now (now.add (-cfg.timeout)) schemas

end TestJob

end Foreman

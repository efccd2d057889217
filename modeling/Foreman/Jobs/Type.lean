import Foreman.Jobs.History
import Foreman.Jobs.TestJob
import Foreman.Jobs.Scripted

/-!
# Job types

A job type finds its ready rows, makes an executor for a row, and cleans up rows crashed
workers left. The program has `history_job` and `test_job1`; scripted types exercise the
scheduler. A program executor works at once; a scripted one may wait, answering nothing
until settled again.
-/

namespace Foreman

inductive JobType where
  | history (work : HistoryWork)
  | test
  | scripted (s : ScriptedType)
  deriving Inhabited

inductive JobRun where
  | history (r : HistoryRun)
  | test (r : TestRun)
  | scripted (r : ScriptedRun)
  deriving Inhabited

namespace JobType

def historyName : String := "history_job"

def testName : String := "test_job1"

def registry : Registry JobType := ⟨[(testName, .test), (historyName, .history .complete)]⟩

/-- The query of the ready rows, or empty when there is nothing to poll. -/
def queueQuery (t : JobType) (ctx : Ctx) (h : Handle) (cfg : JobConfig) :
    BackendM (Except Fault String) :=
  match t with
  | .history _ => HistoryJob.queueQuery ctx h cfg
  | .test => TestJob.queueQuery ctx h cfg
  | .scripted s => return .ok s.query

/-- The executor of a row; `made` counts the executors made before it. -/
def new (t : JobType) (made : Nat) (row : QueueRow) (cfg : JobConfig) : Except Fault JobRun :=
  match t with
  | .history work => (HistoryJob.new row cfg work).map .history
  | .test => (TestJob.new row cfg).map .test
  | .scripted s =>
    let r := s.new made row
    match r.start with
    | .unmade m => .error (.plain m)
    | _ => .ok (.scripted r)

end JobType

namespace JobRun

def row : JobRun → QueueRow
  | .history r => r.row
  | .test r => r.row
  | .scripted r => r.row

/-- Takes the row: whether it was taken, and the failure on the way. -/
def start (e : JobRun) (ctx : Ctx) (h : Handle) (now : Instant) :
    BackendM (Option (Outcome (Bool × Option Fault)) × JobRun) :=
  match e with
  | .history r => do return (some (.returned (← r.start ctx h now)), e)
  | .test r => do
    let (res, r) ← r.start ctx h now
    return (some (.returned res), .test r)
  | .scripted r =>
    return (r.start.startResult ctx r.row.key, .scripted { r with starts := r.starts + 1 })

def execute (e : JobRun) (ctx : Ctx) (h : Handle) (now : Instant) :
    BackendM (Option (Outcome (Option Fault)) × JobRun) :=
  match e with
  | .history r => do return (some (← r.execute ctx h now), e)
  | .test r => do return (some (.returned (← r.execute ctx h now)), e)
  | .scripted r =>
    return (r.execute.result ctx r.row.key, .scripted { r with executes := r.executes + 1 })

def cancel (e : JobRun) (ctx : Ctx) (h : Handle) (now : Instant) :
    BackendM (Option (Outcome (Option Fault)) × JobRun) :=
  match e with
  | .history r => do return (some (.returned (← r.cancel ctx h now)), e)
  | .test r => do return (some (.returned (← r.cancel ctx h now)), e)
  | .scripted r =>
    return (r.cancel.result ctx r.row.key, .scripted { r with cancels := r.cancels + 1 })

end JobRun

namespace JobType

/-- What a clean-up waits on when it does not return at once; `calls` counts the clean-ups
before it. -/
def cleanUpWaitsOn (t : JobType) (calls : Nat) : Behaviour :=
  match t with
  | .scripted s => s.cleanUpAt calls
  | _ => .ok

/-- Cleans up the rows that crashed workers left behind; `calls` counts the clean-ups before
it. -/
def cleanUp (t : JobType) (calls : Nat) (ctx : Ctx) (h : Handle) (now : Instant) (cfg : JobConfig) :
    BackendM (Option (Outcome (Option Fault))) :=
  match t with
  | .history _ => do return some (.returned (← HistoryJob.cleanUp ctx h now cfg))
  | .test => do return some (.returned (← TestJob.cleanUp ctx h now cfg))
  | .scripted s => return (s.cleanUpAt calls).result ctx ""

end JobType

end Foreman

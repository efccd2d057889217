import Foreman.Threads.Collection
import Foreman.Queue.Batch
import Foreman.Cleanup.Sweep
import Foreman.Maintenance.Source
import Foreman.Runtime.Interval
import Foreman.Config.Settings

/-!
# Workers

A worker is one process of the job manager: it polls the ready queue, runs jobs as threads,
follows the maintenance switches and takes its turn at cleaning up after crashed workers. It
drains once asked to terminate gracefully or at its terminating time; asked to terminate
immediately, it cancels its jobs and stops. It reaches its database through a dialer whose
script answers each attempt (the last entry repeats, an empty script always connects):
connect, fail with a message, connect after asking to drain, or fail after asking to stop at
once; the dialer logs whether a connection was open and the entry used.
-/

namespace Foreman

inductive Connection where
  | ok
  | fail (msg : String)
  /-- The worker is asked to drain, then the attempt connects. -/
  | drain
  /-- The worker is asked to stop at once, then the attempt fails. -/
  | halt (msg : String)
  deriving Inhabited

/-- Reads a script entry: `ok`, `error:MSG`, `graceful` or `immediate:MSG`. -/
def Connection.ofText (s : String) : Connection :=
  if s == "graceful" then .drain
  else if s.startsWith "error:" then .fail (s.drop 6).toString
  else if s.startsWith "immediate:" then .halt (s.drop 10).toString
  else .ok

/-- The dialer of a worker: its script and the attempts made so far. -/
structure Dialer where
  script : List String := []
  /-- Each attempt: whether a connection was open, and the script entry used. -/
  log : List (Bool × String) := []
  deriving Inhabited

/-- Makes the next attempt. -/
def Dialer.dial (d : Dialer) (hadConnection : Bool) : Connection × Dialer :=
  let entry := d.script.getD d.log.length (d.script.getLast?.getD "ok")
  (Connection.ofText entry, { d with log := d.log ++ [(hadConnection, entry)] })

/-- A worker. `made` counts the executors made so far for each job type, by executor name;
`loads` counts how often the maintenance switches were read. -/
structure Worker where
  settings : Settings
  pid : Int
  terminatingTime : Instant
  dialect : Dialect
  workspaceSchema : String
  threads : Threads
  queue : Queue
  clean : CleanupJob
  source : ModeSource
  dialer : Dialer := {}
  graceful : Bool := false
  immediate : Bool := false
  loads : Nat := 0
  made : List (String × Nat) := []

namespace Worker

/-- A worker of a catalog under settings, with its clean-up record and terminating time. -/
def new (s : Settings) (cat : Catalog JobType) (pid : Int) (info : CleanupInfo) (terminatingTime : Instant)
    (source : ModeSource) (dialer : Dialer) (dialect : Dialect) (workspaceSchema : String) : Worker :=
  { settings := s, pid := pid, terminatingTime := terminatingTime, dialect := dialect,
    workspaceSchema := workspaceSchema,
    threads := Threads.new cat s.jobCancelTimeout s.watchInterval,
    queue := { limit := s.queueLoadRows },
    clean := { catalog := cat, schedule := s.cleanUpSchedule, pid := pid, info := info },
    source := source, dialer := dialer }

/-- Whether the worker takes no new jobs: it was asked to terminate gracefully, or its
terminating time has come. -/
def draining (w : Worker) (now : Instant) : Bool := w.graceful || w.terminatingTime ≤ now

def requestGraceful (w : Worker) : Worker := { w with graceful := true }

def requestImmediate (w : Worker) : Worker := { w with immediate := true }

def madeOf (w : Worker) (executor : String) : Nat := (w.made.lookup executor).getD 0

def bumpMade (w : Worker) (executor : String) : Worker :=
  { w with made := (executor, w.madeOf executor + 1) :: w.made.filter (·.1 != executor) }

def loadMode (w : Worker) (ctx : Ctx) : BackendM (Except Fault Mode × Worker) := do
  let r ← w.source.loadNth w.loads ctx
  return (r, { w with loads := w.loads + 1 })

def settle (w : Worker) (now : Instant) : BackendM Worker := do
  let ts ← w.threads.settle
  let c ← w.clean.settle now
  return { w with threads := ts, clean := c }

end Worker

end Foreman

import Foreman.Config.Document
import Foreman.Config.Duration
import Foreman.Schedule.Read
import Foreman.Log.Level
import Foreman.Log.Config
import Foreman.Number.Word

/-!
# Settings

The document checked and completed: the driver is `mysql`, `postgres` or `sqlite`
(`postgresql`, `sqlite3` accepted), zero intervals take their defaults, and every job type
has a positive timeout and job limit per process; job types are kept by name. A worker
accepts new jobs for half as long again as the longest job timeout, and never less than the
configured minimum (two hours by default), so it is not rotated out before its longest job
could finish.
-/

namespace Foreman

structure DatabaseSettings where
  driver : String
  dsn : String
  maxOpenConns : Int
  busyTimeout : Int
  connectTimeout : Int
  workspaceSchema : String
  deriving BEq, Inhabited

structure JobSettings where
  name : String
  executor : String
  timeout : Int
  maxJobPerProcess : Int
  /-- The extra settings as the JSON text they were written as. -/
  extra : Option String
  deriving BEq, Inhabited

structure Settings where
  logging : LogConfig
  database : DatabaseSettings
  poolSize : Int
  watchInterval : Int
  dbReconnectInterval : Int
  exceptionRestartInterval : Int
  queueWatchInterval : Int
  maintenanceCheckInterval : Int
  jobCancelTimeout : Int
  maxJobPerProcess : Int
  queueLoadRows : Int
  acceptable : Int
  sharedDir : String
  cleanUpSchedule : Schedule
  cleanUpSpec : String
  jobs : List JobSettings

namespace Settings

def second : Int := 1000000000

def job? (s : Settings) (name : String) : Option JobSettings := s.jobs.find? (·.name == name)

def maxJobTimeout (s : Settings) : Int := s.jobs.foldl (fun m j => max m j.timeout) 0

/-- How long a stopping worker waits for its jobs: three cancel timeouts and two watch
intervals, a 64-bit duration like the two it is made of. -/
def shutdownWait (s : Settings) : Int := Word.wrap (3 * s.jobCancelTimeout + 2 * s.watchInterval)

def defaultSharedDir : String := "/tmp"

def checkDatabase (c : DatabaseSection) : Except Fault DatabaseSettings := do
  let driver := Text.lower (Text.trimSpace c.driver)
  let driver ←
    if driver == "mysql" || driver == "postgres" || driver == "sqlite" then pure driver
    else if driver == "postgresql" then pure "postgres"
    else if driver == "sqlite3" then pure "sqlite"
    else if driver == "" then throw (.plain "database.driver is required")
    else throw (.plain ("database.driver: unknown driver " ++ Quote.text c.driver))
  let dsn := Text.trimSpace c.dsn
  if dsn == "" then throw (.plain "database.dsn is required")
  let busy ← DurationText.field "database.busy_timeout" c.busyTimeout
  let connect ← DurationText.orDefault "database.connect_timeout" c.connectTimeout (10 * second)
  return ⟨driver, dsn, c.maxOpenConns, busy, connect, Text.trimSpace c.workspaceSchema⟩

def checkJob (name : String) (j : JobSection) : Except Fault JobSettings := do
  let name := Text.trimSpace name
  if name == "" then throw (.plain "jobs: empty job name")
  let path := "jobs." ++ name
  let timeout ← DurationText.field (path ++ ".timeout") j.timeout
  if timeout ≤ 0 then throw (.plain (path ++ ".timeout must be > 0"))
  if j.maxJobPerProcess ≤ 0 then throw (.plain (path ++ ".max_job_per_process must be > 0"))
  let executor := Text.trimSpace j.executor
  return ⟨name, if executor == "" then name else executor, timeout, j.maxJobPerProcess, j.extra⟩

/-- Job types in the order of their names; of equal names the earlier stays first. -/
def sortJobs (js : List JobSettings) : List JobSettings :=
  let rec insert (j : JobSettings) : List JobSettings → List JobSettings
    | [] => [j]
    | k :: rest => if j.name < k.name then j :: k :: rest else k :: insert j rest
  js.foldr insert []

def managerDuration (name raw : String) (default : Int) : Except Fault Int :=
  DurationText.orDefault ("manager." ++ name) raw default

end Settings

def Config.resolve (cfg : Option Config) : Except Fault Settings := do
  let some cfg := cfg | throw (.plain "config is nil")
  if !Level.valid cfg.logging.level then
    throw (.plain ("logging.level: unknown level " ++ Quote.text cfg.logging.level))
  let logging : LogConfig :=
    ⟨cfg.logging.level, cfg.logging.console, cfg.logging.json,
      ⟨cfg.logging.file.enabled, cfg.logging.file.path⟩⟩
  let db ← Settings.checkDatabase cfg.database
  let m := cfg.manager
  let pool := if m.poolSize ≤ 0 then 2 else m.poolSize
  let maxJobs := if m.maxJobPerProcess ≤ 0 then 10 else m.maxJobPerProcess
  let loadRows := if m.queueLoadRows ≤ 0 then Word.wrap (maxJobs * Word.wrap (pool * 2 + 1)) else m.queueLoadRows
  let watch ← Settings.managerDuration "watch_interval" m.watchInterval Settings.second
  let reconnect ← Settings.managerDuration "db_reconnect_interval" m.dbReconnectInterval
    (30 * Settings.second)
  let restart ← Settings.managerDuration "exception_restart_interval"
    m.exceptionRestartInterval (5 * Settings.second)
  let queueWatch ← Settings.managerDuration "queue_watch_interval" m.queueWatchInterval
    (3 * Settings.second)
  let maintenance ← Settings.managerDuration "maintenance_check_interval"
    m.maintenanceCheckInterval (10 * Settings.second)
  let cancel ← Settings.managerDuration "job_cancel_timeout" m.jobCancelTimeout
    (3 * Settings.second)
  let acceptMin ← Settings.managerDuration "acceptable_min" m.acceptableMin
    (7200 * Settings.second)
  let shared := Text.trimSpace m.sharedDir
  let shared := if shared == "" then Settings.defaultSharedDir else shared
  let spec := Text.trimSpace cfg.cleanup.schedule
  let spec := if spec == "" then "1h" else spec
  let schedule ← (Schedule.read spec).mapError (Fault.wrap "cleanup.schedule")
  let table := cfg.jobs.getD []
  if table.isEmpty then throw (.plain "jobs: at least one job type is required")
  let jobs ← table.mapM fun (name, j) => Settings.checkJob name j
  let jobs := Settings.sortJobs jobs
  let longest := jobs.foldl (fun m j => max m j.timeout) 0
  let acceptable := max (Word.quot (Word.wrap (longest * 3)) 2) acceptMin
  return ⟨logging, db, pool, watch, reconnect, restart, queueWatch, maintenance, cancel, maxJobs,
    loadRows, acceptable, shared, schedule, spec, jobs⟩

end Foreman

import Foreman.Json.Print

/-!
# The configuration document

The configuration as written, before defaults and checks. Durations keep their text, and a
job's extra settings the JSON text they were written as. `Config.toJson` writes the fields
in a fixed order, leaving out empty or zero optional ones, the job types by name, and `null`
for a document without `jobs`.
-/

namespace Foreman

structure LogFileSection where
  enabled : Bool := false
  path : String := ""
  deriving BEq, Inhabited

structure LoggingSection where
  level : String := ""
  console : Bool := false
  json : Bool := false
  file : LogFileSection := {}
  deriving BEq, Inhabited

structure DatabaseSection where
  driver : String := ""
  dsn : String := ""
  maxOpenConns : Int := 0
  busyTimeout : String := ""
  connectTimeout : String := ""
  workspaceSchema : String := ""
  deriving BEq, Inhabited

structure ManagerSection where
  poolSize : Int := 0
  watchInterval : String := ""
  dbReconnectInterval : String := ""
  exceptionRestartInterval : String := ""
  queueWatchInterval : String := ""
  maintenanceCheckInterval : String := ""
  jobCancelTimeout : String := ""
  maxJobPerProcess : Int := 0
  queueLoadRows : Int := 0
  acceptableMin : String := ""
  sharedDir : String := ""
  deriving BEq, Inhabited

structure CleanUpSection where
  schedule : String := ""
  deriving BEq, Inhabited

structure JobSection where
  executor : String := ""
  timeout : String := ""
  maxJobPerProcess : Int := 0
  /-- The extra settings as the JSON text they were written as. -/
  extra : Option String := none
  deriving BEq, Inhabited

abbrev JobTable := List (String × JobSection)

structure Config where
  logging : LoggingSection := {}
  database : DatabaseSection := {}
  manager : ManagerSection := {}
  cleanup : CleanUpSection := {}
  /-- Nothing (`none`) when the document has no job types at all (not even an empty table). -/
  jobs : Option JobTable := none
  deriving BEq, Inhabited

namespace JobTable

/-- The table with `name` set to `job`, replacing an entry of that name. -/
def insert (t : JobTable) (name : String) (job : JobSection) : JobTable :=
  match t with
  | [] => [(name, job)]
  | (k, j) :: rest =>
    if name == k then (name, job) :: rest
    else if name < k then (name, job) :: (k, j) :: rest
    else (k, j) :: insert rest name job

end JobTable

namespace Config

def optional (keep : Bool) (key : String) (v : Json) : List (String × Json) :=
  if keep then [(key, v)] else []

def loggingJson (l : LoggingSection) : Json :=
  .obj ([("level", .str l.level), ("console", .bool l.console)] ++
    optional l.json "json" (.bool true) ++
    [("file", .obj [("enabled", .bool l.file.enabled), ("path", .str l.file.path)])])

def databaseJson (d : DatabaseSection) : Json :=
  .obj ([("driver", .str d.driver), ("dsn", .str d.dsn)] ++
    optional (d.maxOpenConns != 0) "max_open_conns" (.int d.maxOpenConns) ++
    optional (d.busyTimeout != "") "busy_timeout" (.str d.busyTimeout) ++
    optional (d.connectTimeout != "") "connect_timeout" (.str d.connectTimeout) ++
    optional (d.workspaceSchema != "") "workspace_schema" (.str d.workspaceSchema))

def managerJson (m : ManagerSection) : Json :=
  let text (key v : String) := optional (v != "") key (.str v)
  .obj (optional (m.poolSize != 0) "pool_size" (.int m.poolSize) ++
    text "watch_interval" m.watchInterval ++
    text "db_reconnect_interval" m.dbReconnectInterval ++
    text "exception_restart_interval" m.exceptionRestartInterval ++
    text "queue_watch_interval" m.queueWatchInterval ++
    text "maintenance_check_interval" m.maintenanceCheckInterval ++
    text "job_cancel_timeout" m.jobCancelTimeout ++
    optional (m.maxJobPerProcess != 0) "max_job_per_process" (.int m.maxJobPerProcess) ++
    optional (m.queueLoadRows != 0) "queue_load_rows" (.int m.queueLoadRows) ++
    text "acceptable_min" m.acceptableMin ++
    text "shared_dir" m.sharedDir)

def jobJson (j : JobSection) : Json :=
  .obj (optional (j.executor != "") "executor" (.str j.executor) ++
    [("timeout", .str j.timeout), ("max_job_per_process", .int j.maxJobPerProcess)] ++
    match j.extra with
    | some text => optional (text != "") "extra" (.raw (Json.compactText text))
    | none => [])

def toJson (c : Config) : Json :=
  .obj [("logging", loggingJson c.logging), ("database", databaseJson c.database),
    ("manager", managerJson c.manager),
    ("cleanup", .obj (optional (c.cleanup.schedule != "") "schedule" (.str c.cleanup.schedule))),
    ("jobs", match c.jobs with
      | some t => .obj (t.map fun (k, j) => (k, jobJson j))
      | none => .null)]

end Config

end Foreman

import Foreman.Config.Document
import Foreman.Text.Space

/-!
# Changes between two configurations

Which sections changed, with a few new values; the database connection string is never
shown, only whether it changed (blanks around it ignored). A missing configuration counts
as empty. Only the logging section is read again after the start; other changes need a
restart.
-/

namespace Foreman

/-- What changed between two configurations: the changed sections in the order of their
names, and the new values to report, in the order they are reported. -/
structure Change where
  changed : List String
  attrs : List (String × Json)

namespace Change

/-- The names of the job types added, removed or changed, in order. -/
def jobs (old new : JobTable) : List String :=
  let names := (old.map (·.1) ++ new.map (·.1)).foldl
    (fun acc n => if acc.contains n then acc else acc ++ [n]) []
  let differs (n : String) : Bool :=
    match old.find? (·.1 == n), new.find? (·.1 == n) with
    | some (_, a), some (_, b) => !(a == b)
    | none, none => false
    | _, _ => true
  let rec insert (n : String) : List String → List String
    | [] => [n]
    | m :: rest => if n < m then n :: m :: rest else m :: insert n rest
  (names.filter differs).foldr insert []

/-- Whether a restart is needed for the changed sections to take effect. -/
def restartRequired (changed : List String) : Bool := changed.any (· != "logging")

end Change

def Config.change (old new : Option Config) : Change :=
  let o := old.getD {}
  let n := new.getD {}
  let logging : List (String × List (String × Json)) :=
    if o.logging == n.logging then []
    else [("logging", [("logging.level", .str n.logging.level),
      ("logging.console", .bool n.logging.console),
      ("logging.file_enabled", .bool n.logging.file.enabled)])]
  let database :=
    if o.database == n.database then []
    else [("database", [("database.driver", .str n.database.driver),
      ("database.dsn_changed", .bool (Text.trimSpace o.database.dsn != Text.trimSpace n.database.dsn))])]
  let manager :=
    if o.manager == n.manager then []
    else [("manager", [("manager.pool_size", Json.int n.manager.poolSize)])]
  let cleanup :=
    if o.cleanup == n.cleanup then []
    else [("cleanup", [("cleanup.schedule", .str n.cleanup.schedule)])]
  let jobs := Change.jobs (o.jobs.getD []) (n.jobs.getD [])
  let jobsPart := if jobs.isEmpty then [] else [("jobs", [("jobs.changed", .str (",".intercalate jobs))])]
  let parts := logging ++ database ++ manager ++ cleanup ++ jobsPart
  let rec insert (s : String) : List String → List String
    | [] => [s]
    | m :: rest => if s < m then s :: m :: rest else m :: insert s rest
  ⟨(parts.map (·.1)).foldr insert [], parts.flatMap (·.2)⟩

end Foreman

import Foreman.Simulation.Log
import Foreman.App.Program
import Foreman.Cleanup.Record

/-!
# Simulated starts of the program

A start is `{path, text, steps}`: the configuration file at `path` holds `text` (none when
missing), and the program starts and logs `oracle probe`. The answer gives the pool size, job
types, longest timeout, log settings and lines logged, then the steps: `apply {path, text}`
hands over a configuration read from `text` (none without one), `log {msg}` logs as an
ordinary and a diagnostic line; each reports the log settings and new lines.

A worker run is `{text, terminating_time, cleanup_info, info_pid}`: the program starts on
`text` and runs a worker past its terminating time, its record in the process (`""`), made
first (`create`) or attached at a path. The answer is the worker's failure and its distinct
messages in order.
-/

namespace Foreman

namespace Simulation

def logConfigJson : LogM Json := do
  let c := (← get).service.config
  return .obj [("console", .bool c.console), ("file_enabled", .bool c.file.enabled),
    ("file_path", .str c.file.path), ("json", .bool c.json), ("level", .str c.level)]

/-- Runs the steps of a start; `last` is the configuration the program had last. -/
def appSteps (fault : Fault → Json) (a : App) : List Json → LogRun → Option Config → LogM (List Json)
  | [], _, _ => return []
  | s :: rest, r, last => do
    let next : Except Fault (Option Config) ← match s.textOr "do" "" with
      | "apply" =>
        match s.field "text" with
        | .str text =>
          match Config.decode (s.textOr "path" "config.yaml") text with
          | .ok c => do a.applyReload last (some c); pure (.ok (some c))
          | .error e => pure (.error e)
        | _ => do a.applyReload last none; pure (.ok none)
      | "log" => do
        a.log.info (s.textOr "msg" "") []
        a.log.debug (s.textOr "msg" "") []
        pure (.ok last)
      | _ => pure (.ok last)
    let (news, r) ← r.fresh
    let out : Json ← match next with
      | .ok _ => do pure (.obj [("files", news.2), ("log_config", ← logConfigJson)])
      | .error e => pure (fault e)
    let last := match next with
      | .ok c => c
      | .error _ => last
    return out :: (← appSteps fault a rest r last)

def app (fault : Fault → Json) (j : Json) : Json :=
  let path := j.textOr "path" "config.yaml"
  let file := (j.field "text").str?
  let body : LogM Json := do
    match ← App.new path file with
    | .error e => return fault e
    | .ok a =>
      a.log.info "oracle probe" []
      let r : LogRun := { logger := a.log, service := true }
      let (news, r) ← r.fresh
      let conf ← logConfigJson
      let steps ← appSteps fault a (j.items "steps") r (some a.config)
      return .obj [("result", .obj [("pool_size", .int a.settings.poolSize),
        ("catalog", .arr (a.catalog.names.map Json.str)), ("max_timeout_ns", .int a.catalog.maxTimeout),
        ("log_config", conf), ("logger_zero", .bool a.log.isZero), ("files", news.2),
        ("steps", .arr steps)])]
  (body ({} : LogWorld)).1

def messages (w : LogWorld) : List String :=
  let all := (w.files.flatMap (·.2)).map (·.message)
  (all.eraseDups.filter (· != "")).mergeSort fun a b => decide (a ≤ b)

def runWorker (fault : Fault → Json) (j : Json) : Json :=
  let body : LogM (Option Fault) := do
    match ← App.new "config.yaml" (some (j.textOr "text" "")) with
    | .error e => return some e
    | .ok a =>
      let attach : Except String Unit := match j.textOr "cleanup_info" "" with
        | "" => .ok ()
        | "create" => do
          let (_, disk) ← ({} : RecordDisk).create "jobmanager.cleanup"
          let _ ← disk.attach "jobmanager.cleanup"
          return ()
        | p => do
          let _ ← ({} : RecordDisk).attach p
          return ()
      match attach with
      | .error e => return some (.plain ("attach clean-up shared memory: " ++ e))
      | .ok () =>
        let routines := ["config.reload", "config.watch.restart"]
        for _ in routines do a.log.debug "goroutine started" []
        a.manager.log.debug "config watcher started" []
        let worker := a.log.process "worker" 4242
        worker.info "worker started" []
        worker.info "worker stopped" []
        for _ in routines do a.log.debug "goroutine stopped" []
        return none
  let (res, w) := body ({} : LogWorld)
  match res with
  | some e =>
    match e.message.startsWith "attach" with
    | true => .obj [("result", .obj [("result", fault e), ("messages", .arr ((messages w).map Json.str))])]
    | false => fault e
  | none => .obj [("result", .obj [("result", .null), ("messages", .arr ((messages w).map Json.str))])]

end Simulation

end Foreman

import Foreman.Config.Manager
import Foreman.Config.Change
import Foreman.Jobs.Type
import Foreman.Log.Logger

/-!
# The program

Starting loads the configuration file through a manager whose validator wants settings that
resolve and known job types (else `load config <path>: <reason>`), then sets up the log
service; the manager logs with `comp=config`. A new configuration is compared with the old:
no change is only noted; otherwise the changed sections are logged, one that resolves
reconfigures logging at once (one that does not is rejected), and the other sections wait
for a restart, logged as a warning.
-/

namespace Foreman

/-- A started program: its configuration manager, the configuration it started with, its
settings and job catalog, and its logger. -/
structure App where
  manager : ConfigManager
  config : Config
  settings : Settings
  catalog : Catalog JobType
  log : Logger

namespace App

/-- The check a configuration must pass: its settings resolve and its job types are known. -/
def validator (c : Config) : Except Fault Unit := do
  let s ← Config.resolve (some c)
  let _ ← Catalog.ofSettings JobType.registry s
  return ()

/-- Starts the program on a configuration file, given its text or `none` when it is
missing. -/
def new (path : String) (file : Option String) : LogM (Except Fault App) := do
  let m : ConfigManager := { ConfigManager.new path with validator := validator }
  match m.load file with
  | (.error e, _) => return .error (e.wrap ("load config " ++ path))
  | (.ok cfg, m) =>
    match Config.resolve (some cfg) with
    | .error e => return .error e
    | .ok s =>
      match Catalog.ofSettings JobType.registry s with
      | .error e => return .error e
      | .ok cat =>
        LogService.apply s.logging
        let log := Logger.service
        let m := { m with log := log.withFields [.text "comp" "config"] }
        return .ok ⟨m, cfg, s, cat, log⟩

def applyReload (a : App) (last cfg : Option Config) : LogM Unit := do
  let c := Config.change last cfg
  if c.changed.isEmpty then
    a.log.debug "config reload received, but no effective changes detected" []
    return
  let changed := ",".intercalate c.changed
  a.log.info "config reloaded" (.text "changed" changed :: c.attrs.map fun (k, v) => LogField.value k v)
  match Config.resolve cfg with
  | .error e => a.log.warn "reloaded config rejected" [.err (some e.message)]
  | .ok s =>
    LogService.apply s.logging
    if Change.restartRequired c.changed then
      a.log.warn "config change takes effect after restart" [.text "changed" changed]

end App

end Foreman

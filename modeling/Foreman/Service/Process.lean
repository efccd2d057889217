import Foreman.Service.Host
import Foreman.Config.Watch
import Foreman.Cleanup.Record
import Foreman.Text.Url

/-!
# What every process of the service does

A process starts its program from the configuration file and runs two routines, the reload
handler subscribed to the manager and the watch of the file's directory, each logging its
start and stop. A change of the file reloads it, and a configuration taken goes to the reload
handler, which applies it (`App.applyReload`). A stop signal is logged as `stop requested`
with its reason, then handled by role.
-/

namespace Foreman

/-- The clean-up records of the host's files: every file is a record of its bytes. -/
def RecordDisk.ofFiles (fs : FileSpace) : RecordDisk :=
  { dirs := fs.dirs, names := fs.files.zipIdx.map fun ((p, _), i) => (p, i),
    nodes := fs.files.map fun (_, t) => Url.bytes t }

namespace ServiceHost

/-- Starts the program on a configuration file: the program, or why it did not start, and
the log service it set up. -/
def startApp (cfgPath : String) : HostM (Except Fault App × LogService) := do
  let h ← get
  withLogs {} (App.new cfgPath (h.files.read cfgPath))

def routineStarted (p : ServiceProc) (name : String) : LogM Unit :=
  p.app.log.debug "goroutine started" [.text "name" name]

def routineStopped (p : ServiceProc) (name : String) : LogM Unit :=
  p.app.log.debug "goroutine stopped" [.text "name" name]

def configRoutines : List String := ["config.reload", "config.watch.restart"]

/-- Subscribes the reload handler and starts the configuration routines and the watch. -/
def watchConfig (p : ServiceProc) : HostM ServiceProc := do
  let (sub, m) := p.app.manager.subscribe 8
  let p := { p with app := { p.app with manager := m }, sub := sub, last := some p.app.config }
  let w := ConfigWatch.ofPath m.path
  let dirExists := (← get).files.hasDir w.dir
  let (on, p) ← logged p (do
    for r in configRoutines do routineStarted p r
    w.start m.log dirExists)
  return { p with watching := on }

def stopRoutines (p : ServiceProc) : HostM ServiceProc := do
  let ((), p) ← logged p (configRoutines.forM (routineStopped p))
  return { p with watching := false }

/-- Reloads the configuration after its file changed, and applies what the manager took. -/
def reloadConfig (p : ServiceProc) : HostM ServiceProc := do
  let text := (← get).files.read p.app.manager.path
  let (m, p) ← logged p (p.app.manager.reload text)
  let (got, m) := m.drain p.sub
  let p := { p with app := { p.app with manager := m }, reloadDue := false }
  match got.bind fun (cs, _) => cs.getLast? with
  | some cfg =>
    let ((), p) ← logged p (p.app.applyReload p.last (some cfg))
    return { p with last := some cfg }
  | none => return p

/-- Logs the stop signals a process received, oldest first, and marks the stops they ask
for; `announce` logs what the process does on each. -/
def takeSignals (p : ServiceProc) (announce : ServiceProc → StopSignal → LogM Unit) :
    HostM ServiceProc := do
  let p ← p.inbox.foldlM (fun p sig => do
    let ((), p) ← logged p (do
      p.app.log.info "stop requested" [.text "reason" sig.reason]
      announce p sig)
    match sig with
    | .interrupt => return { p with graceful := true }
    | .terminate => return { p with immediate := true }) p
  return { p with inbox := [] }

end ServiceHost

end Foreman

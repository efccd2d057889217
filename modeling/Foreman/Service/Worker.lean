import Foreman.Service.Process
import Foreman.Store.Open
import Foreman.Maintenance.Source

/-!
# A worker process

A worker given a clean-up record file attaches to it, or stops with `worker stopped with
error`. With no terminating time, or the zero time, it takes now plus the acceptable window.
It logs `worker started`, stops at once if past its terminating time, and else loops until
stopped, each pass connecting first; an unreachable database keeps it retrying, a reachable
one fails its pass for want of the maintenance table. An interrupt asks for a graceful stop, a
termination for an immediate one; the worker then logs `worker stopped` and ends with 0.
-/

namespace Foreman

def Settings.storeConfig (s : Settings) : StoreConfig :=
  { driver := s.database.driver, dsn := s.database.dsn, maxOpenConns := s.database.maxOpenConns,
    busyTimeout := s.database.busyTimeout, connectTimeout := s.database.connectTimeout,
    workspaceSchema := s.database.workspaceSchema }

namespace ServiceHost

/-- Why every pass of a worker on a fresh database fails: the maintenance switches table is
missing. -/
def switchesFailure : String :=
  let sql := "SELECT MODE_NAME, SETTING_VALUE FROM " ++ ModeSource.defaultTable
  match SqliteOpen.execute {} sql with
  | (_, some e) => "maintenance mode: " ++ e.message
  | (_, none) => "maintenance mode: " ++ (SqliteOpen.logicFault ("no such table: " ++ ModeSource.defaultTable)).message

/-- The wait between two attempts to connect: the restart interval, five seconds when it is
not positive. -/
def retryEvery (s : Settings) : Int :=
  if s.exceptionRestartInterval ≤ 0 then 5 * Settings.second else s.exceptionRestartInterval

/-- Ends a worker: it logs that it stopped and stops its routines. -/
def finishWorker (p : ServiceProc) : HostM ServiceProc := do
  let ((), p) ← logged p (p.roleLog.info "worker stopped" [])
  let p ← stopRoutines p
  return { p with exitCode := some 0, recurring := [], connecting := false }

/-- The first passes of a worker's loop: connecting, and then failing on the maintenance
switches while the limiter lets the failure through. -/
def startLoop (p : ServiceProc) : HostM ServiceProc := do
  let s := p.app.settings
  let now := (← get).now
  match ← onFiles (Storage.openDb Ctx.live s.storeConfig) with
  | .ok _ =>
    let limiter := LimitedLogger.new p.roleLog (60 * Settings.second) 3
    let pass (l : LimitedLogger) : LogM LimitedLogger := do
      p.app.log.debug "worker db reconnected" []
      l.log now Level.error "worker loop failed" [.err (some switchesFailure)]
    let ((), p) ← logged p (do
      let l ← pass limiter
      let l ← pass l
      let _ ← pass l
      return ())
    return { p with recurring := [LogLine.of Level.debug "worker db reconnected" p.app.log.fields] }
  | .error e =>
    let fields : List LogField :=
      [.text "driver" s.database.driver, .err (some e.message), .duration "retry_in" (retryEvery s)]
    let ((), p) ← logged p (p.app.log.error "db connect failed" fields)
    return { p with connecting := true,
                    recurring := [LogLine.of Level.error "db connect failed" (p.app.log.fields ++ fields)] }

/-- Runs a worker process with its terminating time, if one was given, and its clean-up
record file (empty for none). -/
def runWorker (p : ServiceProc) (terminating : Option Stamp) (info : String) : HostM ServiceProc := do
  let h ← get
  if info != "" then
    if let .error e := (RecordDisk.ofFiles h.files).attach info then
      let ((), p) ← logged p
        (p.app.log.error "worker stopped with error" [.err (some ("attach clean-up shared memory: " ++ e))])
      return { p with exitCode := some 1 }
  let due : Stamp := (terminating.filter (!·.instant.isZero)).getD ⟨h.now.add p.app.settings.acceptable, 0⟩
  let p ← watchConfig { p with record := info }
  let ((), p) ← logged p (p.roleLog.info "worker started" [.time "terminating_time" due])
  if due.instant.nanos ≤ h.now.nanos then finishWorker p else startLoop p

def announceWorker (p : ServiceProc) : StopSignal → LogM Unit
  | .interrupt => if p.graceful then pure () else p.roleLog.info "terminate requested" [.text "mode" "graceful"]
  | .terminate => if p.immediate then pure () else p.roleLog.info "terminate requested" [.text "mode" "immediate"]

def settleWorker (p : ServiceProc) : HostM ServiceProc := do
  if !p.running then return p
  let p ← takeSignals p announceWorker
  if p.immediate || (p.graceful && !p.connecting) then finishWorker p else return p

/-- Delivers a stop signal to a worker and lets it act on it; an ended worker gets none. -/
def signalWorker (sig : StopSignal) (pid : Nat) : HostM Unit := do
  match (← get).proc? pid with
  | some w =>
    if w.running then
      let w ← settleWorker { w with inbox := w.inbox ++ [sig] }
      put w
  | none => pure ()

end ServiceHost

end Foreman

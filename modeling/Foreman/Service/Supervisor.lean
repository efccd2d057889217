import Foreman.Service.Launch

/-!
# The supervisor process

The supervisor first makes the clean-up record `jobmanager-<pid>.cleanup` in the shared
directory, or stops with `supervisor stopped with error`. It then logs `supervisor started`
and runs rounds until asked to stop: a lost record is fatal, ended workers are reaped and the
missing ones started, the clean-up duty moves to the worker accepting jobs longest. An
interrupt asks for a graceful stop, a termination for an immediate one; the supervisor then
stops its workers, logs `supervisor stopped`, removes its record, and ends with 0, or 1 after
its last round's failure.
-/

namespace Foreman

namespace ServiceHost

def recordPath (s : Settings) (pid : Nat) : String :=
  Path.join s.sharedDir ("jobmanager-" ++ toString pid ++ ".cleanup")

def createRecord (path : String) : HostM (Except String Unit) := do
  match (← get).files.makeDirs (Path.dir path) with
  | .error e => return .error ("cleanup info: " ++ e)
  | .ok fs =>
    if fs.hasDir path then return .error ("cleanup info: open " ++ path ++ ": is a directory")
    modify fun h => { h with files := fs.write path (String.ofList (List.replicate 16 (Char.ofNat 0))) }
    return .ok ()

/-- Starts the workers the pool is short of: `live` of `size` run already. -/
def spawnWorkers (p : ServiceProc) (live : Nat) : Nat → HostM ServiceProc
  | 0 => return p
  | k + 1 => do
    let s := p.app.settings
    let size := max s.poolSize 1
    let h ← get
    let due := h.now.add (s.acceptable / (size - (live : Int)))
    let argv := workerArgv p.app.manager.path ⟨⟨due, 0⟩, p.record⟩
    let pid ← launchWith pure argv
    let ((), p) ← logged p (p.roleLog.info "worker started" [.int "pid" pid, .time "terminating_time" ⟨due, 0⟩])
    spawnWorkers { p with sup := { p.sup with workers := p.sup.workers ++ [(pid, due)] } } (live + 1) k

/-- Reaps the workers that ended, logging each. -/
def reap (p : ServiceProc) : HostM ServiceProc := do
  let h ← get
  let (gone, kept) := p.sup.workers.partition fun (w, _) => (h.exitOf w).isSome
  let ((), p) ← logged p (gone.forM fun (w, _) => p.roleLog.debug "worker exited" [.int "pid" w])
  return { p with sup := { p.sup with workers := kept } }

/-- The worker accepting jobs longest: the latest terminating time, the first of equals. -/
def longest (workers : List (Nat × Instant)) (now : Instant) : Nat :=
  let accepting := workers.filter fun (_, t) => now.nanos < t.nanos
  (accepting.foldl (fun best (w, t) =>
    match best with
    | some (_, bt) => if bt.nanos < t.nanos then some (w, t) else best
    | none => some (w, t)) none).elim 0 (·.1)

/-- Moves the clean-up duty to the worker accepting jobs longest, unless its holder still
accepts them. -/
def elect (p : ServiceProc) : HostM ServiceProc := do
  let now := (← get).now
  let cur := p.sup.holder
  let accepting (w : Nat) := p.sup.workers.any fun (v, t) => v == w && now.nanos < t.nanos
  if cur != 0 && accepting cur then return p
  let next := longest p.sup.workers now
  if next == cur then return p
  let ((), p) ← logged p (p.roleLog.info "clean up duty moved" [.int "from_pid" cur, .int "to_pid" next])
  return { p with sup := { p.sup with holder := next } }

def round (p : ServiceProc) : HostM ServiceProc := do
  let h ← get
  if (h.files.read p.record).isNone && !h.files.hasDir p.record then
    let lost := "clean-up shared memory lost: cleanup info: stat " ++ p.record ++ ": no such file or directory"
    return { p with sup := { p.sup with failure := some lost } }
  let p ← reap p
  let s := p.app.settings
  let size := (max s.poolSize 1).toNat
  let live := p.sup.workers.length
  let p ← spawnWorkers p live (size - live)
  let p ← elect p
  if !p.sup.ready then notify "READY=1"
  notify ("STATUS=" ++ toString p.sup.workers.length ++ " workers, clean-up pid " ++ toString p.sup.holder)
  return { p with sup := { p.sup with ready := true } }

def liveWorkers (p : ServiceProc) : HostM (List Nat) := do
  let h ← get
  return (p.sup.workers.map (·.1)).filter fun w => (h.exitOf w).isNone

/-- Sends a stop signal to every worker that still runs, logging how many there are. -/
def terminateWorkers (p : ServiceProc) (sig : StopSignal) : HostM ServiceProc := do
  let live ← liveWorkers p
  let mode := if sig == .interrupt then "graceful" else "immediate"
  let ((), p) ← logged p
    (p.roleLog.info "terminating workers" [.text "mode" mode, .int "workers" live.length])
  for w in live do signalWorker sig w
  reap p

def finishSupervisor (p : ServiceProc) : HostM ServiceProc := do
  let ((), p) ← logged p (p.roleLog.info "supervisor stopped" [])
  let p ← stopRoutines p
  modify fun h => { h with files := (h.files.remove p.record).2 }
  match p.sup.failure with
  | some e =>
    let ((), p) ← logged p (p.app.log.error "supervisor stopped with error" [.err (some e)])
    return { p with exitCode := some 1, sup := { p.sup with phase := .done } }
  | none => return { p with exitCode := some 0, sup := { p.sup with phase := .done } }

/-- Lets the supervisor run until it waits: it acts on the stop signals it received, does
a round while it serves, and goes on stopping while it stops. -/
def settleSupervisor (p : ServiceProc) : HostM ServiceProc := do
  if !p.running then return p
  let p ← takeSignals p fun _ _ => pure ()
  match p.sup.phase with
  | .done => return p
  | .serving =>
    let p ← if p.graceful || p.immediate then pure p else round p
    if !p.graceful && !p.immediate && p.sup.failure.isNone then return p
    notify "STOPPING=1"
    if p.immediate || p.sup.failure.isSome then
      finishSupervisor (← terminateWorkers p .terminate)
    else
      let p ← terminateWorkers p .interrupt
      if p.sup.workers.isEmpty then finishSupervisor p
      else return { p with sup := { p.sup with phase := .draining } }
  | .draining =>
    if p.immediate then finishSupervisor (← terminateWorkers p .terminate)
    else
      let p ← reap p
      if p.sup.workers.isEmpty then finishSupervisor p else return p

/-- Runs the supervisor process up to the end of its first round. -/
def runSupervisor (p : ServiceProc) : HostM ServiceProc := do
  let s := p.app.settings
  let path := recordPath s p.pid
  match ← createRecord path with
  | .error e =>
    let ((), p) ← logged p
      (p.app.log.error "supervisor stopped with error" [.err (some ("create clean-up shared memory: " ++ e))])
    return { p with exitCode := some 1 }
  | .ok () =>
    let p ← watchConfig { p with record := path }
    let ((), p) ← logged p (do
      routineStarted p "systemd.watchdog"
      routineStopped p "systemd.watchdog"
      p.roleLog.info "supervisor started" [.int "pool_size" s.poolSize, .duration "acceptable" s.acceptable])
    settleSupervisor p

end ServiceHost

end Foreman

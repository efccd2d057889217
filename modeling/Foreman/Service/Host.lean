import Foreman.App.Program
import Foreman.Host.Files
import Foreman.Json.Print
import Foreman.Text.Split

/-!
# The host of a running service

The service's processes share a working directory, a standard output and the service
manager's socket. Each has its own log service, appending every line as one JSON line to the
files it names, so processes sharing a file interleave their lines.

A process is a supervisor or a worker holding its program (configuration manager,
configuration, settings, logger), the configuration its reload handler saw last, the stop
signals not yet acted on, and its exit code once ended. A running process may write some
lines again and again (a worker reconnecting, say): its recurring lines. The host keeps the
supervisor's messages to a listening service manager (`READY=1`, ...) in order.
-/

namespace Foreman

/-- What a process of the service does. -/
inductive Role where
  | supervisor
  | worker
  deriving BEq, Inhabited

/-- A signal that stops the service: an interrupt asks for a graceful stop, a termination
for an immediate one. -/
inductive StopSignal where
  | interrupt
  | terminate
  deriving BEq, Inhabited

def StopSignal.reason : StopSignal → String
  | .interrupt => "sigint"
  | .terminate => "sigterm"

/-- Where a supervisor stands: serving (keeping its pool full), draining (waiting for its
workers to finish after a graceful request) or done. -/
inductive SupervisorPhase where
  | serving
  | draining
  | done
  deriving BEq, Inhabited

/-- What a supervisor keeps: its workers with their terminating times, the worker that
holds the clean-up duty (0 for none), whether it reported that it is ready, where it stands,
and the failure that stopped it, if any. -/
structure SupervisorState where
  workers : List (Nat × Instant) := []
  holder : Nat := 0
  ready : Bool := false
  phase : SupervisorPhase := .serving
  failure : Option String := none
  deriving Inhabited

structure ServiceProc where
  pid : Nat
  role : Role
  app : App
  logs : LogService := {}
  /-- The subscription of its reload handler to the configuration manager. -/
  sub : Nat := 0
  /-- The configuration its reload handler saw last. -/
  last : Option Config := none
  /-- Whether its configuration watch runs. -/
  watching : Bool := false
  /-- Whether a change of its configuration file awaits a reload. -/
  reloadDue : Bool := false
  /-- The clean-up record: the supervisor's own, or the one a worker attached to; empty for
  none. -/
  record : String := ""
  /-- What the process keeps as a supervisor. -/
  sup : SupervisorState := {}
  /-- Stop signals received and not yet acted upon, oldest first. -/
  inbox : List StopSignal := []
  graceful : Bool := false
  immediate : Bool := false
  /-- A worker that keeps failing to reach its database, which only an immediate stop
  interrupts. -/
  connecting : Bool := false
  /-- The lines it writes again and again while it runs. -/
  recurring : List LogLine := []
  exitCode : Option Nat := none

namespace ServiceProc

def running (p : ServiceProc) : Bool := p.exitCode.isNone

/-- The logger of the process's own loop: the program's logger with its role and pid. -/
def roleLog (p : ServiceProc) : Logger :=
  p.app.log.process (if p.role == .supervisor then "supervisor" else "worker") p.pid

end ServiceProc

def LogLine.text (l : LogLine) : String := Json.render (.obj l.written)

/-- How many times a text occurs in another, counted without overlaps. -/
def countOccurrences (text piece : String) : Nat :=
  if piece.isEmpty then text.length + 1 else (Text.splitOn text piece).length - 1

/-- The host: the working directory, the processes (the one started first leads), what was
written to the standard output and error, the messages to the service manager (`none` when
none listens), the pid the next process gets and the clock. -/
structure ServiceHost where
  files : FileSpace
  procs : List ServiceProc := []
  stdout : String := ""
  stderr : String := ""
  notices : Option (List String) := none
  /-- The processes that ended before their program started, with their exit codes. -/
  early : List (Nat × Nat) := []
  nextPid : Nat := 4242
  now : Instant
  deriving Inhabited

abbrev HostM := StateM ServiceHost

namespace ServiceHost

def proc? (h : ServiceHost) (pid : Nat) : Option ServiceProc := h.procs.find? (·.pid == pid)

def exitOf (h : ServiceHost) (pid : Nat) : Option Nat :=
  match h.proc? pid with
  | some p => p.exitCode
  | none => h.early.lookup pid

def put (p : ServiceProc) : HostM Unit :=
  modify fun h => { h with procs := h.procs.map fun q => if q.pid == p.pid then p else q }

def add (p : ServiceProc) : HostM Unit := modify fun h => { h with procs := h.procs ++ [p] }

def freshPid : HostM Nat := do
  let h ← get
  set { h with nextPid := h.nextPid + 1 }
  return h.nextPid

/-- Writes a line to the standard output; a text of several lines is written whole. -/
def say (line : String) : HostM Unit := modify fun h => { h with stdout := h.stdout ++ line ++ "\n" }

def complain (lines : List String) : HostM Unit :=
  modify fun h => { h with stderr := h.stderr ++ String.join (lines.map (· ++ "\n")) }

def notify (msg : String) : HostM Unit :=
  modify fun h => { h with notices := h.notices.map (· ++ [msg]) }

/-- The log world a process writes in: its log service, over the host's files. -/
def logWorld (fs : FileSpace) (svc : LogService) : LogWorld :=
  { service := svc, files := fs.files.map fun (p, _) => (p, []), dirs := fs.dirs }

/-- The host's files after a log world wrote in them: new directories made, new files made
and every line appended to its file. -/
def absorb (fs : FileSpace) (w : LogWorld) : FileSpace :=
  let fs := { fs with dirs := fs.dirs ++ w.dirs.filter (!fs.dirs.contains ·) }
  w.files.foldl (fun fs (p, lines) =>
    match fs.read p with
    | some old =>
      if lines.isEmpty then fs
      else { fs with files := fs.files.map fun (q, t) =>
        if q == p then (q, old ++ String.join (lines.map (·.text ++ "\n"))) else (q, t) }
    | none => { fs with files := fs.files ++ [(p, String.join (lines.map (·.text ++ "\n")))] }) fs

/-- Runs logging work with a log service: its result and the service after it. -/
def withLogs (svc : LogService) (act : LogM α) : HostM (α × LogService) := do
  let h ← get
  let (a, w) := act (logWorld h.files svc)
  set { h with files := absorb h.files w }
  return (a, w.service)

def logged (p : ServiceProc) (act : LogM α) : HostM (α × ServiceProc) := do
  let (a, svc) ← withLogs p.logs act
  return (a, { p with logs := svc })

def onFiles (act : StateM FileSpace α) : HostM α := do
  let h ← get
  let (a, fs) := act h.files
  set { h with files := fs }
  return a

/-- How many times a text occurs in a file; a missing file holds nothing. -/
def occurrences (h : ServiceHost) (file piece : String) : Nat :=
  countOccurrences ((h.files.read file).getD "") piece

/-- Appends a process's recurring lines of the levels its log service writes to the file
it writes to, `times` times. -/
def recur (p : ServiceProc) (times : Nat) : HostM Unit := do
  let _ ← withLogs p.logs (modify fun w =>
    match w.service.file with
    | some f =>
      let due := p.recurring.filter fun l => l.level.rank ≥ w.service.threshold.rank
      (List.range times).foldl (fun w _ => due.foldl (fun w l => w.append f l) w) w
    | none => w)

end ServiceHost

end Foreman

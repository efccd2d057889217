import Foreman.Service.Supervisor

/-!
# A session with the service

A session starts the program in a working directory and acts on it from outside: it signals
the process, writes and removes files, and waits for log lines, service-manager messages and
the end. Processes act only while the session waits, each running until it waits itself
(`settle`). Stop signals come before file changes, reloaded a quarter second after, so a
process asked to stop has stopped first.

Waiting for a log text succeeds when the file holds it often enough, or a running process
keeps writing it, then as often as needed; waiting for a message, when it was sent (status
messages are all `STATUS`). The session ends by settling once more, killing a process still
running.
-/

namespace Foreman

namespace ServiceHost

/-- Starts the program with the arguments after its name: the pid of the process. -/
def launch (argv : List String) : HostM Nat := launchWith runSupervisor argv

/-- Lets every process run until it waits: stop signals are acted on first, then changes of
configuration files are reloaded. -/
def settle : HostM Unit := do
  for pid in (← get).procs.map (·.pid) do
    if let some p := (← get).proc? pid then
      if p.running then
        match p.role with
        | .supervisor => put (← settleSupervisor p)
        | .worker => if !p.inbox.isEmpty then put (← settleWorker p)
  for pid in (← get).procs.map (·.pid) do
    if let some p := (← get).proc? pid then
      if p.running && p.watching && p.reloadDue then put (← reloadConfig p)

/-- Sends a stop signal to a process: the failure when it has ended. -/
def signal (pid : Nat) (sig : StopSignal) : HostM (Option String) := do
  let h ← get
  match h.exitOf pid, h.proc? pid with
  | none, some p =>
    put { p with inbox := p.inbox ++ [sig] }
    return none
  | _, _ => return some "os: process already finished"

/-- Notes that a path changed: every process watching a configuration file of that name
will reload it. -/
def touched (path : String) : HostM Unit :=
  modify fun h => { h with procs := h.procs.map fun p =>
    if p.running && p.watching && (ConfigWatch.ofPath p.app.manager.path).concerns (Path.clean path)
    then { p with reloadDue := true } else p }

def writeFile (path text : String) : HostM Unit := do
  modify fun h => { h with files := h.files.write path text }
  touched path

/-- Removes the files and empty directories a pattern finds: how many were removed. -/
def removeMatching (pattern : String) : HostM Nat := do
  let mut removed := 0
  for m in (← get).files.glob pattern do
    let (ok, fs) := (← get).files.erase m
    if ok then
      modify fun h => { h with files := fs }
      touched m
      removed := removed + 1
  return removed

/-- The lines a process keeps writing that its log service lets through. -/
def dueRecurring (p : ServiceProc) : List LogLine :=
  p.recurring.filter fun l => l.level.rank ≥ p.logs.threshold.rank

/-- Waits until a log file holds a text at least `count` times. -/
def waitLog (file piece : String) (count : Nat) : HostM Bool := do
  settle
  let h ← get
  let held := h.occurrences file piece
  if count ≤ held then return true
  let perRound (p : ServiceProc) : Nat := ((dueRecurring p).map fun l => countOccurrences l.text piece).foldr (· + ·) 0
  let writers := h.procs.filter fun p => p.running && p.logs.file == some (Path.clean file) && perRound p > 0
  match writers with
  | p :: _ =>
    recur p ((count - held + perRound p - 1) / perRound p)
    return true
  | [] => return false

/-- The name of a message to the service manager: status messages are all `STATUS`. -/
def noticeName (msg : String) : String := if msg.startsWith "STATUS=" then "STATUS" else msg

/-- Waits until a message of a name was sent to the service manager. -/
def waitNotice (name : String) : HostM Bool := do
  settle
  return ((← get).notices.getD []).any fun m => m == name || noticeName m == name

def waitExit (pid : Nat) : HostM Bool := do
  settle
  return ((← get).exitOf pid).isSome

/-- Ends the session: the processes settle once more, and those still running are killed.
Whether the process was killed. -/
def close (pid : Nat) : HostM Bool := do
  settle
  return ((← get).exitOf pid).isNone

/-- The messages to the service manager by name, a run of equal names as one. -/
def noticeNames (h : ServiceHost) : List String :=
  ((h.notices.getD []).map noticeName).foldr (fun m acc =>
    match acc with
    | n :: _ => if n == m then acc else m :: acc
    | [] => [m]) []

end ServiceHost

/-- The lines of a text, the empty one after its last line break left out. -/
def textLines (s : String) : List String :=
  match (Text.splitOn s "\n").reverse with
  | "" :: rest => rest.reverse
  | all => all.reverse

end Foreman

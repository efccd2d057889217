import Foreman.Workers.Process
import Foreman.Time.Instant

/-!
# The worker pool

The supervisor's pool of worker processes, each told its terminating time, after which it
only finishes what it has. A worker is `EXITED` once its process ended, `TERMINATING` once
signalled or past its terminating time, and `ACCEPTABLE` otherwise. A worker started while
`n` are acceptable gets the window over `size - n`. Starting reaps first, killing a worker
alive one window past its terminating time; exited workers count nowhere. Stopping signals
every live worker and waits until a reap leaves none live, or until the deadline.
-/

namespace Foreman

inductive WorkerStatus where
  | acceptable
  | terminating
  | exited
  deriving DecidableEq, BEq, Inhabited

/-- The name of a status. -/
def WorkerStatus.name : WorkerStatus → String
  | .acceptable => "ACCEPTABLE"
  | .terminating => "TERMINATING"
  | .exited => "EXITED"

/-- A member of the pool: a worker process, when it started, and when it stops taking jobs. -/
structure PoolMember where
  process : Process
  startedAt : Instant
  terminatingTime : Instant
  /-- Whether the worker was signalled. -/
  terminating : Bool := false
  deriving Inhabited

namespace PoolMember

/-- The worker's process id. -/
def pid (w : PoolMember) : Int := w.process.pid

def status (w : PoolMember) (now : Instant) : WorkerStatus :=
  if w.process.exited then .exited
  else if w.terminating || w.terminatingTime ≤ now then .terminating
  else .acceptable

/-- Sends a signal: the worker counts as terminating from now on, and a live process receives
the signal. A failure names the process and the signal ("pid 7: interrupt: ..."). -/
def signal (w : PoolMember) (s : Signal) : Option Fault × PoolMember :=
  let w := { w with terminating := true }
  if w.process.exited then (none, w)
  else
    let (e, p) := w.process.deliver s
    (e.map (·.wrap ("pid " ++ toString w.pid ++ ": " ++ s.word)), { w with process := p })

/-- Waits for the worker's process to end under a deadline: nothing ends a process while
the pool waits, so a live process outlasts the deadline. -/
def wait (w : PoolMember) : Option Fault :=
  if w.process.exited then none else some Fault.deadline

/-- The worker's process leaves of its own accord. -/
def exit (w : PoolMember) : PoolMember := { w with process := w.process.exit }

end PoolMember

/-- A pool of workers: the launcher of their processes, the number of acceptable workers
it aims at, and the acceptance window in nanoseconds. -/
structure Pool where
  launcher : Launcher
  size : Nat
  window : Int
  workers : List PoolMember := []
  deriving Inhabited

namespace Pool

/-- A pool of `size` workers, at least one. -/
def new (launcher : Launcher) (size : Int) (window : Int) : Pool :=
  ⟨launcher, if size < 1 then 1 else size.toNat, window, []⟩

def count (p : Pool) (now : Instant) (st : WorkerStatus) : Nat :=
  p.workers.countP fun w => w.status now == st

/-- The number of workers that have not exited. -/
def len (p : Pool) (now : Instant) : Nat :=
  p.workers.countP fun w => w.status now != .exited

def nextLifetime (p : Pool) (now : Instant) : Int :=
  let n := p.count now .acceptable
  if n < p.size then p.window.tdiv ((p.size - n : Nat) : Int) else p.window

/-- Kills every live worker that outlived its terminating time by a whole window; a failed
kill leaves the worker as it is. -/
def reap (p : Pool) (now : Instant) : Pool :=
  { p with workers := p.workers.map fun w =>
      if w.status now == .exited then w
      else if w.terminatingTime.add p.window ≤ now then (w.signal .kill).2
      else w }

/-- Reaps, then starts a worker whose terminating time is `now` plus its lifetime. -/
def add (p : Pool) (now : Instant) : Except Fault PoolMember × Pool :=
  let p := p.reap now
  let term := now.add (p.nextLifetime now)
  match p.launcher.launch with
  | (.error e, l) => (.error e, { p with launcher := l })
  | (.ok proc, l) =>
    let w : PoolMember := ⟨proc, now, term, false⟩
    (.ok w, { p with launcher := l, workers := p.workers ++ [w] })

/-- Whether the first worker with this process id is acceptable. -/
def isAcceptable (p : Pool) (now : Instant) (pid : Int) : Bool :=
  match p.workers.find? (·.pid == pid) with
  | some w => w.status now == .acceptable
  | none => false

/-- The acceptable worker with the latest terminating time (the first of those that tie),
or 0 when none is acceptable. -/
def longestAcceptable (p : Pool) (now : Instant) : Int :=
  (p.workers.foldl (fun (best : Int × Instant) w =>
    if w.status now == .acceptable && (best.1 == 0 || best.2 < w.terminatingTime) then
      (w.pid, w.terminatingTime)
    else best) (0, Instant.zero)).1

/-- Runs an action on the workers with a process id; the failure of the first one is kept. -/
def onWorker (p : Pool) (pid : Int) (f : PoolMember → Option Fault × PoolMember) : Option Fault × Pool :=
  let step (acc : Option Fault × List PoolMember) (w : PoolMember) :=
    if w.pid == pid then
      let (e, w) := f w
      ((acc.1.or e), acc.2 ++ [w])
    else (acc.1, acc.2 ++ [w])
  let (e, ws) := p.workers.foldl step (none, [])
  (e, { p with workers := ws })

/-- Sends a signal to every live worker, collecting the failures in order. -/
def signalAll (p : Pool) (now : Instant) (s : Signal) : List Fault × Pool :=
  let step (acc : List Fault × List PoolMember) (w : PoolMember) :=
    if w.status now == .exited then (acc.1, acc.2 ++ [w])
    else
      let (e, w) := w.signal s
      (acc.1 ++ e.toList, acc.2 ++ [w])
  let (errs, ws) := p.workers.foldl step ([], [])
  (errs, { p with workers := ws })

/-- Stops the pool with a signal: every live worker receives it, then the pool is reaped.
With no live worker left the failures of the signals are reported together; otherwise the
deadline passes and is reported after them. -/
def terminate (p : Pool) (now : Instant) (s : Signal) : Option Fault × Pool :=
  let (errs, p) := p.signalAll now s
  let p := p.reap now
  if p.len now == 0 then (Fault.gather errs, p)
  else (Fault.gather (errs ++ [Fault.deadline]), p)

end Pool

end Foreman

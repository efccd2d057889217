import Foreman.Fault

/-!
# Worker processes

The supervisor talks to a worker only by signals: an interrupt asks it to finish and leave, a
terminate to leave at once, a kill ends it. A process exits on a signal, ignores it, or
refuses it ("signal refused"), and remembers the signals that reached it, each once, in order.
A launcher hands out ids in order, the n-th launch the n-th after the first, a failed launch
using up its id ("spawn failed #n").
-/

namespace Foreman

inductive Signal where
  /-- Asks the worker to finish its jobs and leave. -/
  | interrupt
  /-- Asks the worker to leave at once. -/
  | terminate
  /-- Ends the worker. -/
  | kill
  deriving DecidableEq, BEq, Inhabited

namespace Signal

/-- The word for the signal in failure messages. -/
def word : Signal → String
  | .interrupt => "interrupt"
  | .terminate => "terminated"
  | .kill => "kill"

def label : Signal → String
  | .interrupt => "SIGINT"
  | .terminate => "SIGTERM"
  | .kill => "KILL"

end Signal

inductive Reaction where
  /-- The process exits. -/
  | exit
  /-- The process goes on. -/
  | ignore
  /-- The signal cannot be delivered. -/
  | refuse
  deriving DecidableEq, BEq, Inhabited

/-- How a process answers each signal; by default every signal ends it. -/
structure Reactions where
  onInterrupt : Reaction := .exit
  onTerminate : Reaction := .exit
  onKill : Reaction := .exit
  deriving Inhabited

/-- The answer to one signal. -/
def Reactions.to (r : Reactions) : Signal → Reaction
  | .interrupt => r.onInterrupt
  | .terminate => r.onTerminate
  | .kill => r.onKill

structure Process where
  pid : Int
  reactions : Reactions := {}
  exited : Bool := false
  /-- The signals that reached the process, each once, in the order they first came. -/
  received : List Signal := []
  deriving Inhabited

namespace Process

/-- Delivers a signal to a live process: it is noted, then the process answers it. A
refused signal fails with "signal refused". -/
def deliver (p : Process) (s : Signal) : Option Fault × Process :=
  let p := { p with received := if p.received.contains s then p.received else p.received ++ [s] }
  match p.reactions.to s with
  | .exit => (none, { p with exited := true })
  | .ignore => (none, p)
  | .refuse => (some (.plain "signal refused"), p)

def exit (p : Process) : Process := { p with exited := true }

end Process

/-- Launches processes with ids in order from `firstPid`; the launches numbered in `failing`
(counting from 1) fail. Each process answers signals as `reactions` says for its id, else as
`fallback` says. -/
structure Launcher where
  firstPid : Int
  failing : List Nat := []
  reactions : List (Int × Reactions) := []
  fallback : Reactions := {}
  launched : Nat := 0
  deriving Inhabited

def Launcher.launch (l : Launcher) : Except Fault Process × Launcher :=
  let n := l.launched + 1
  let l := { l with launched := n }
  if l.failing.contains n then (.error (.plain ("spawn failed #" ++ toString n)), l)
  else
    let pid := l.firstPid + n - 1
    (.ok { pid := pid, reactions := (l.reactions.lookup pid).getD l.fallback }, l)

end Foreman

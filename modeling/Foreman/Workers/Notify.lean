import Foreman.Fault
import Foreman.Number.IntText

/-!
# Notifying the service manager

The supervisor sends `READY=1`, `STATUS=<text>` and `STOPPING=1` to a sink that records them,
refuses each with a failure, or is absent (nothing sent, nothing failing). The watchdog is on
when the manager sets an interval in microseconds (and names no pid or the program's own); it
pings `WATCHDOG=1` every half interval until stopped. An interval that is no positive integer,
or a pid that is no integer, is a failure.
-/

namespace Foreman

inductive NotifySink where
  | recording
  | failing (msg : String)
  | absent
  deriving BEq, Inhabited

structure Notifier where
  sink : NotifySink := .absent
  sent : List String := []
  deriving Inhabited

namespace Notifier

/-- Sends a line: the sink's failure, if any. -/
def send (n : Notifier) (state : String) : Option Fault × Notifier :=
  match n.sink with
  | .absent => (none, n)
  | .recording => (none, { n with sent := n.sent ++ [state] })
  | .failing m => (some (.plain m), { n with sent := n.sent ++ [state] })

def ready (n : Notifier) : Option Fault × Notifier := n.send "READY=1"

def stopping (n : Notifier) : Option Fault × Notifier := n.send "STOPPING=1"

def status (n : Notifier) (msg : String) : Option Fault × Notifier := n.send ("STATUS=" ++ msg)

/-- The watchdog interval in nanoseconds set by the service manager's texts (`none` when
the watchdog is off), or why the texts are wrong. `self` is the program's own pid. -/
def watchdogInterval (usec pid : String) (self : Int) : Except Fault (Option Int) := do
  if usec == "" then return none
  let s ← (IntText.atoi usec).mapError fun e => Fault.plain ("error converting WATCHDOG_USEC: " ++ e)
  if s ≤ 0 then throw (.plain "error WATCHDOG_USEC must be a positive number")
  if pid == "" then return some (s * 1000)
  let p ← (IntText.atoi pid).mapError fun e => Fault.plain ("error converting WATCHDOG_PID: " ++ e)
  return if p == self then some (s * 1000) else none

/-- Runs the watchdog for `span` nanoseconds: its failure, whether it pinged, and the
notifier after it. It pings when half the interval passes within the span, and stops at
the first ping that fails. -/
def watchdog (n : Notifier) (usec pid : String) (self span : Int) : Option Fault × Bool × Notifier :=
  match watchdogInterval usec pid self with
  | .error e => (some e, false, n)
  | .ok none => (none, false, n)
  | .ok (some every) =>
    if every / 2 < span then
      let (e, n) := n.send "WATCHDOG=1"
      (e, true, n)
    else (none, false, n)

end Notifier

end Foreman

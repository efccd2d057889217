import Foreman.Time.Instant

/-!
# Interval timers

A timer reports once per period that its interval has elapsed: its first deadline is one
interval after it is made, and each time it reports, the next deadline moves to one
interval after that moment.
-/

namespace Foreman

structure IntervalTimer where
  every : Int
  next : Instant
  deriving BEq, Inhabited

namespace IntervalTimer

def start (every : Int) (now : Instant) : IntervalTimer := ⟨every, now.add every⟩

/-- Whether the deadline has been reached at `now`, and the timer afterwards. -/
def passed (t : IntervalTimer) (now : Instant) : Bool × IntervalTimer :=
  if now.nanos < t.next.nanos then (false, t) else (true, { t with next := now.add t.every })

end IntervalTimer

end Foreman

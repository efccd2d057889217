import Foreman.Time.Instant
import Foreman.Number.Word

/-!
# The shared clean-up record

The supervisor and its workers share the pid of the duty holder (0 for none) and the time the
next sweep is due, as 64-bit Unix nanoseconds in which 0 means no time: the zero time is
stored as 0, and a stored 0 reads back as the zero time.
-/

namespace Foreman

structure CleanupInfo where
  pid : Int := 0
  /-- The due time in Unix nanoseconds, 0 for none. -/
  stamp : Int := 0
  deriving BEq, Inhabited

namespace CleanupInfo

/-- The due time; the zero time when none is set. -/
def time (i : CleanupInfo) : Instant := if i.stamp == 0 then Instant.zero else ⟨i.stamp⟩

def setTime (i : CleanupInfo) (t : Instant) : CleanupInfo :=
  { i with stamp := if t.isZero then 0 else Word.wrap t.nanos }

def setPid (i : CleanupInfo) (pid : Int) : CleanupInfo := { i with pid := pid }

end CleanupInfo

end Foreman

import Foreman.Script.Behaviour

/-!
# Calling an executor

No executor failure escapes the scheduler: a start check that fails or panics counts as not
started, whatever it answered; running or cancelling a job that panics fails with the panic's
message ("execute panicked: boom"), and a returned error is passed on as it is.
-/

namespace Foreman

namespace Call

/-- Whether a start check took the job: only a check that returned `true` without an
error did. -/
def started : Outcome (Bool × Option Fault) → Bool
  | .returned (ok, none) => ok
  | .returned (_, some _) => false
  | .panicked _ => false

/-- The failure of running (`what` is `execute`) or cancelling (`cancel`) a job. -/
def failure (what : String) : Outcome (Option Fault) → Option Fault
  | .returned e => e
  | .panicked m => some (.plain (what ++ " panicked: " ++ m))

end Call

end Foreman

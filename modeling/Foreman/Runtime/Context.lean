import Foreman.Fault

/-!
# Cancellation

Work runs under a context cancelled at most once, with a cause. Anything merely checking it
gets the plain "context canceled" failure (a database call refuses to start); work asking why
it stopped gets the cause: a job timeout, a worker stopping, or another failure.
-/

namespace Foreman

/-- A cancellable context: the cause it was cancelled with, if it was. -/
structure Ctx where
  cause : Option Fault := none
  deriving Inhabited

namespace Ctx

/-- A live context. -/
def live : Ctx := {}

def cancelledWith (f : Fault) : Ctx := ⟨some f⟩

def done (c : Ctx) : Bool := c.cause.isSome

/-- What a check of the context reports: nothing while it is live. -/
def err (c : Ctx) : Option Fault := c.cause.map fun _ => Fault.canceled

def cancel (c : Ctx) (f : Fault) : Ctx := if c.done then c else ⟨some f⟩

/-- Why work under the context must stop, or nothing while it is live. -/
def interrupted (c : Ctx) : Option Fault := c.cause

end Ctx

end Foreman

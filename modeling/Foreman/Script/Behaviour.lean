import Foreman.Runtime.Context

/-!
# Scripted behaviours

Scripted calls return at once (with or without an error, or panicking), wait for their
context's cancellation and return the cause, or wait to be released, ignoring the context
(`stubborn`) or not (`block`). As text: `ok`, `error:MSG`, `error_key` (the row's key as the
error), `panic:MSG`, `until_done`, `stubborn`, `block`; a job's start also takes `true`,
`false` and `true_error:MSG` (started, with an error), and `new_error:MSG` says an executor
cannot be made.
-/

namespace Foreman

/-- How a call ended: it returned a value, or it panicked with a message. -/
inductive Outcome (α : Type) where
  | returned (a : α)
  | panicked (msg : String)
  deriving Inhabited

inductive Behaviour where
  | ok
  | fail (msg : String)
  | failKey
  | panic (msg : String)
  | untilDone
  | stubborn
  | block
  /-- A start that reports whether the job started, and maybe an error. -/
  | started (ok : Bool) (err : Option String)
  /-- The executor cannot be made, for the reason given. -/
  | unmade (msg : String)
  deriving BEq, Inhabited

namespace Behaviour

def ofText (s : String) : Behaviour :=
  if s == "ok" then .ok
  else if s == "error_key" then .failKey
  else if s == "until_done" then .untilDone
  else if s == "stubborn" then .stubborn
  else if s == "block" then .block
  else if s == "true" then .started true none
  else if s == "false" then .started false none
  else if s.startsWith "true_error:" then .started true (some (s.drop 11).toString)
  else if s.startsWith "error:" then .fail (s.drop 6).toString
  else if s.startsWith "panic:" then .panic (s.drop 6).toString
  else .fail s

/-- Reads the text of the start of an executor made from a script, which may also say that
the executor cannot be made. -/
def ofStartText (s : String) : Behaviour :=
  if s.startsWith "new_error:" then .unmade (s.drop 10).toString else ofText s

def waitsForRelease : Behaviour → Bool
  | .stubborn | .block => true
  | _ => false

/-- How a call that returns an error ends under the context `ctx`, for the row with key
`key`; `none` while it is still waiting. -/
def result (b : Behaviour) (ctx : Ctx) (key : String) : Option (Outcome (Option Fault)) :=
  match b with
  | .ok => some (.returned none)
  | .fail m => some (.returned (some (.plain m)))
  | .failKey => some (.returned (some (.plain key)))
  | .panic m => some (.panicked m)
  | .untilDone | .block => ctx.interrupted.map fun c => .returned (some c)
  | .stubborn => none
  | .started _ err => some (.returned (err.map Fault.plain))
  | .unmade m => some (.returned (some (.plain m)))

/-- How a start ends: whether the job started, and the error. Behaviours that are not
about starting report that the job did not start, with their error. -/
def startResult (b : Behaviour) (ctx : Ctx) (key : String) :
    Option (Outcome (Bool × Option Fault)) :=
  match b with
  | .started s err => some (.returned (s, err.map Fault.plain))
  | b => (b.result ctx key).map fun o => match o with
    | .returned e => .returned (false, e)
    | .panicked m => .panicked m

end Behaviour

end Foreman

import Foreman.Worker.Loop

/-!
# A worker's run

A run repeats the loop until the worker stops: asked to stop at once, or cancelled, it cancels
every job and stops; draining, it ticks its threads and stops once none is left; otherwise it
makes a pass, a failed one (unless cancelled meanwhile) asking the next to reconnect. Between
passes jobs and clean-up go on while the run's clock stands. Stopping terminates the clean-up
duty and the threads, these with a deadline of three cancel timeouts and two watch intervals,
and retires the connection; the run reports the clean-up's failure, else the threads'. A run
is bounded by a number of passes: with the clock still, one not ended by then repeats itself
and is reported as not ended.
-/

namespace Foreman

namespace Worker

/-- Stops the worker: terminates the clean-up duty and the threads, then retires the
connection. -/
def shutdown (w : Worker) (db : Option Nat) (now : Instant) : BackendM (Option Fault × Worker) := do
  let (cerr, c) ← w.clean.terminate now none
  let (err, ts) ← w.threads.terminate now w.settings.shutdownWait
  Backend.retire db
  return (cerr.or err, { w with clean := c, threads := ts })

/-- The passes of a run, at most `fuel` of them; `none` when the run has not ended. -/
def runLoop (ctx : Ctx) (now : Instant) : Nat → Worker → WorkerLoop → BackendM (Option (Option Fault × Worker))
  | 0, _, _ => return none
  | fuel + 1, w, st => do
    let ctx := if w.immediate then ctx.cancel Fault.canceled else ctx
    if w.immediate || ctx.interrupted.isSome then
      let w := { w with threads := ← w.threads.cancelAll now }
      return some (← w.shutdown st.db now)
    let w ← if w.draining now then do pure { w with threads := ← w.threads.tick now } else pure w
    if w.draining now && w.threads.count == 0 then return some (← w.shutdown st.db now)
    let (err, w, st) ← w.step st ctx now
    let w ← w.settle now
    let ctx := if w.immediate then ctx.cancel Fault.canceled else ctx
    match err with
    | some _ =>
      if ctx.interrupted.isSome then runLoop ctx now fuel w st
      else runLoop ctx now fuel w { st with reconnect := true }
    | none => runLoop ctx now fuel w st

/-- Runs the worker under `ctx` until it stops, for at most `fuel` passes. -/
def run (w : Worker) (ctx : Ctx) (now : Instant) (fuel : Nat) : BackendM (Option (Option Fault × Worker)) :=
  runLoop ctx now fuel w (WorkerLoop.start w.settings now)

end Worker

end Foreman

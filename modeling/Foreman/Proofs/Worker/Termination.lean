import Mathlib.Logic.Relation
import Foreman.Proofs.Threads.Cancels
import Foreman.Proofs.Worker.Admission

/-!
# Stopping a worker's run

A run shares the worker with callers asking it to stop, its context, returning executions and
cancellations, the sweep and the clock (`RunState.Around`); its own steps (`RunState.Own`)
install its cancel function, read the immediate flag, run the loop, cancel and terminate its
jobs, and retire the connection. A run is any interleaving (`RunState.Step`).

* An immediate request and the run's install meet under one lock, so once both happened the
  context is cancelled (`RunState.Inv.dekker`).
* Every running or timed-out job is settled by the return (`RunState.Covered`).
* With no immediate request and a live context, every cancellation came from a tick after the
  job's timeout (`RunState.Inv.timedOut`, `RunState.Inv.emptied`).
* The run returns only after the clean-up's goroutine saw the sweep end
  (`RunState.Step.returns`).

`RunState.run_termination` puts the four together over every run.
-/

namespace Foreman

set_option autoImplicit false

@[simp] theorem Ctx.done_cancel (c : Ctx) (f : Fault) : (c.cancel f).done = true := by
  unfold Ctx.cancel
  split
  · assumption
  · rfl

theorem Backend.retired_retire {b : Backend} {k : Nat} (exists_ : k < b.handles.length) :
    (((Backend.retire (some k)).run b).2.handles.getD k default).retired = true := by
  rw [Backend.retire_run, getD_modify, if_pos ⟨rfl, exists_⟩]
  unfold Handle.retire
  dsimp only
  split <;> rfl

/-! ## What a pass keeps -/

namespace Worker

/-- What a pass keeps of a worker: its threads change only by ticks and by rows prepared,
checked and started, and a request to stop at once stays made. -/
def PassKeeps (w w' : Worker) : Prop :=
  Relation.ReflTransGen Threads.PassOp w.threads w'.threads ∧ (w.immediate = true → w'.immediate = true)

theorem PassKeeps.of_eq {w w' : Worker} (threads : w'.threads = w.threads) (flag : w'.immediate = w.immediate) :
    PassKeeps w w' :=
  ⟨by rw [threads], fun immediate => flag.trans immediate⟩

theorem PassKeeps.trans {w₁ w₂ w₃ : Worker} (first : PassKeeps w₁ w₂) (second : PassKeeps w₂ w₃) :
    PassKeeps w₁ w₃ :=
  ⟨first.1.trans second.1, second.2 ∘ first.2⟩

/-- What a later worker keeps, after its threads moved on by a pass's operations. -/
theorem PassKeeps.after {w₁ w₂ w₃ : Worker} (ops : Relation.ReflTransGen Threads.PassOp w₁.threads w₂.threads)
    (flag : w₂.immediate = w₁.immediate) (rest : PassKeeps w₂ w₃) : PassKeeps w₁ w₃ :=
  ⟨ops.trans rest.1, fun immediate => rest.2 (flag.trans immediate)⟩

theorem connect_keeps (w : Worker) (st : WorkerLoop) (b : Backend) : PassKeeps w ((w.connect st).run b).1.2.1 := by
  unfold connect
  dsimp only
  split
  · exact PassKeeps.of_eq rfl rfl
  · exact PassKeeps.of_eq rfl rfl
  · exact PassKeeps.of_eq rfl rfl
  · exact ⟨.refl, fun _ => rfl⟩

theorem loadMode_keeps (w : Worker) (ctx : Ctx) (b : Backend) : PassKeeps w ((w.loadMode ctx).run b).1.2 :=
  PassKeeps.of_eq rfl rfl

theorem launchRows_keeps (ctx : Ctx) (db : Option Nat) (now : Instant) (fuel : Nat) :
    ∀ (w : Worker) (b : Backend), PassKeeps w ((launchRows ctx db now fuel w).run b).1 := by
  induction fuel with
  | zero => intro w b; exact PassKeeps.of_eq rfl rfl
  | succ fuel ih =>
      intro w b
      simp only [launchRows]
      split
      · exact PassKeeps.of_eq rfl rfl
      · split
        · exact PassKeeps.of_eq rfl rfl
        · split
          · refine PassKeeps.after ?_ ?_ (ih _ b)
            · exact .refl
            · rfl
          · split
            · refine PassKeeps.after ?_ ?_ (ih _ b)
              · exact .refl
              · rfl
            · -- the row's thread is prepared and checked, then run if the row was taken
              rename_i i ts prepared
              have checked : Relation.ReflTransGen Threads.PassOp w.threads ((ts.takeRow i db ctx now).run b).1.2 :=
                .tail (.single (.prepare _ _ _ prepared)) (.takeRow ts i db ctx now b)
              rw [BackendM.run_bind]
              generalize (ts.takeRow i db ctx now).run b = r at checked ⊢
              obtain ⟨⟨taken, ts₂⟩, b₂⟩ := r
              dsimp only at checked ⊢
              cases taken
              · refine PassKeeps.after ?_ ?_ (ih _ b₂)
                · exact checked
                · rfl
              · rw [if_pos rfl, BackendM.run_bind]
                refine PassKeeps.after ?_ ?_ (ih _ _)
                · exact checked.tail (.start ts₂ i db now b₂)
                · rfl

theorem startJobs_keeps (w : Worker) (ctx : Ctx) (db : Option Nat) (now : Instant) (b : Backend) :
    PassKeeps w ((w.startJobs ctx db now).run b).1.2 := by
  unfold startJobs
  dsimp only
  split
  · exact PassKeeps.of_eq rfl rfl
  · simp only [BackendM.run_bind]
    generalize (w.queue.query _ ctx _ _).run _ = polled
    obtain ⟨⟨err, q⟩, b₂⟩ := polled
    cases err with
    | some e => exact PassKeeps.of_eq rfl rfl
    | none =>
        rw [BackendM.run_bind]
        exact PassKeeps.after .refl rfl (launchRows_keeps ctx db now _ { w with queue := q } b₂)

theorem afterStart_keeps (now : Instant) (st : WorkerLoop) (x : Option Fault × Worker) (b : Backend) {w₀ : Worker}
    (before : PassKeeps w₀ x.2) : PassKeeps w₀ ((afterStart now st x).run b).1.2.1 := by
  obtain ⟨err, w⟩ := x
  unfold afterStart
  cases err with
  | some e => exact before
  | none =>
      cases st.mode.dataUpdateStop
      · simp only [Option.isSome_none, Bool.false_eq_true, ↓reduceIte, BackendM.run_bind, BackendM.run_pure]
        exact before
      · simp only [Option.isSome_none, Bool.false_eq_true, ↓reduceIte, BackendM.run_pure]
        exact before

theorem afterLoad_keeps (ctx : Ctx) (now : Instant) (st : WorkerLoop) (x : Except Fault Mode × Worker) (b : Backend)
    {w₀ : Worker} (before : PassKeeps w₀ x.2) : PassKeeps w₀ ((afterLoad ctx now st x).run b).1.2.1 := by
  obtain ⟨res, w⟩ := x
  cases res with
  | error e => exact before
  | ok m =>
      simp only [afterLoad]
      by_cases stop : (m.paused || w.draining now) = true
      · simp only [stop, ↓reduceIte, Bool.false_eq_true, BackendM.run_bind, BackendM.run_pure]
        exact afterStart_keeps _ _ _ _ before
      · simp only [stop, Bool.false_eq_true, ↓reduceIte]
        cases (st.queueEvery.passed now).1 && decide (↑w.threads.count < w.settings.maxJobPerProcess)
        · simp only [Bool.false_eq_true, ↓reduceIte, BackendM.run_bind, BackendM.run_pure]
          exact afterStart_keeps _ _ _ _ before
        · simp only [↓reduceIte, BackendM.run_bind]
          exact afterStart_keeps _ _ _ _ (PassKeeps.trans before (startJobs_keeps w ctx _ now b))

theorem afterConnect_keeps (ctx : Ctx) (now : Instant) (x : Option Fault × Worker × WorkerLoop) (b : Backend)
    {w₀ : Worker} (before : PassKeeps w₀ x.2.1) : PassKeeps w₀ ((afterConnect ctx now x).run b).1.2.1 := by
  obtain ⟨err, w, st⟩ := x
  cases err with
  | some e => exact before
  | none =>
      simp only [afterConnect, Option.isSome_none, Bool.false_eq_true, ↓reduceIte, BackendM.run_bind]
      have ticked : PassKeeps w₀ { w with threads := ((w.threads.tick now).run b).1 } :=
        PassKeeps.trans before ⟨.single (.tick _ now b), id⟩
      cases st.modeLoaded
      · simp only [Bool.not_false, ↓reduceIte, BackendM.run_bind]
        exact afterLoad_keeps _ _ _ _ _ (PassKeeps.trans ticked (loadMode_keeps _ ctx _))
      · simp only [Bool.not_true, Bool.false_eq_true, ↓reduceIte]
        cases (st.modeEvery.passed now).1
        · simp only [Bool.false_eq_true, ↓reduceIte, BackendM.run_bind, BackendM.run_pure]
          exact afterLoad_keeps _ _ _ _ _ ticked
        · simp only [↓reduceIte, BackendM.run_bind]
          exact afterLoad_keeps _ _ _ _ _ (PassKeeps.trans ticked (loadMode_keeps _ ctx _))

theorem step_keeps (w : Worker) (st : WorkerLoop) (ctx : Ctx) (now : Instant) (b : Backend) :
    PassKeeps w ((w.step st ctx now).run b).1.2.1 := by
  rw [step_eq_stages]
  by_cases due : (st.db.isNone || st.reconnect) = true
  · simp only [due, ↓reduceIte, BackendM.run_bind]
    exact afterConnect_keeps _ _ _ _ (connect_keeps w st b)
  · simp only [due, Bool.false_eq_true, ↓reduceIte]
    cases (st.reconnectEvery.passed now).1
    · simp only [Bool.false_eq_true, ↓reduceIte, BackendM.run_bind, BackendM.run_pure]
      exact afterConnect_keeps _ _ _ _ (PassKeeps.of_eq rfl rfl)
    · simp only [↓reduceIte, BackendM.run_bind]
      exact afterConnect_keeps _ _ _ _ (connect_keeps w _ b)

end Worker

/-! ## Stopping the clean-up -/

namespace CleanupJob

variable {j : CleanupJob} {now : Instant} {b : Backend}

theorem settle_of_stopped (stopped : j.running = false) : (j.settle now).run b = (j, b) := by
  cases sweep : j.sweep with
  | none => simp [settle, sweep]
  | some s =>
      have ended : s.result.isSome = true := by simpa [running, sweep] using stopped
      obtain ⟨r, result⟩ := Option.isSome_iff_exists.mp ended
      simp [settle, sweep, result]

theorem release_of_stopped (stopped : j.running = false) (name : Option String) (o : Outcome (Option Fault)) :
    (j.release name o now).run b = (j, b) := by
  cases sweep : j.sweep with
  | none => simp [release, sweep]
  | some s =>
      have ended : s.result.isSome = true := by simpa [running, sweep] using stopped
      obtain ⟨r, result⟩ := Option.isSome_iff_exists.mp ended
      simp [release, sweep, result]

theorem terminate_stopped {release : Option (Outcome (Option Fault))}
    (quiet : ((j.terminate now release).run b).1.1 = none) : ((j.terminate now release).run b).1.2.running = false := by
  unfold terminate at quiet ⊢
  cases sweep : j.sweep with
  | none => simp [running, sweep]
  | some s =>
      simp only [sweep] at quiet ⊢
      by_cases ended : s.result.isSome = true
      · simp [ended, running, sweep]
      · simp only [ended, Bool.false_eq_true, ↓reduceIte, BackendM.run_bind] at quiet ⊢
        generalize ((({ j with sweep := some { s with ctx := s.ctx.cancel Fault.jobTerminate } } : CleanupJob).settle
          now).run b) = settled at quiet ⊢
        obtain ⟨j₁, b₁⟩ := settled
        cases stopped : j₁.running
        · simp [stopped]
        · cases release with
          | none => simp [stopped] at quiet
          | some o =>
              simp only [stopped, Bool.not_true, Bool.false_eq_true, ↓reduceIte, BackendM.run_bind] at quiet ⊢
              generalize (j₁.release none o now).run b₁ = released at quiet ⊢
              obtain ⟨j₂, b₂⟩ := released
              generalize (j₂.settle now).run b₂ = again at quiet ⊢
              obtain ⟨j₃, b₃⟩ := again
              cases stopped₃ : j₃.running
              · simp [stopped₃]
              · simp [stopped₃] at quiet

end CleanupJob

/-! ## A run and what goes on around it -/

inductive RunPc where
  /-- Not called yet. -/
  | idle
  /-- Its cancel function is installed; the immediate flag is not read yet. -/
  | installed
  /-- At the top of the loop. -/
  | top
  /-- Past the loop's check for a request to stop at once. -/
  | checked
  /-- About to make a pass. -/
  | passing
  /-- Cancelling, one by one, the jobs it owned when the loop ended. -/
  | cancelling (pending : List Nat)
  /-- The goroutine stopping the clean-up runs; the jobs are to be terminated. -/
  | stopping
  /-- The jobs were terminated or their deadline passed; waiting for the clean-up's goroutine. -/
  | joining
  /-- Returned. -/
  | returned
  deriving DecidableEq

namespace RunPc

/-- The run has read the immediate flag after installing its cancel function. -/
def flagRead : RunPc → Bool
  | .idle | .installed => false
  | _ => true

def pastLoop : RunPc → Bool
  | .cancelling _ | .stopping | .joining | .returned => true
  | _ => false

/-- The run is shutting down: the goroutine stopping the clean-up was started. -/
def shutDown : RunPc → Bool
  | .stopping | .joining | .returned => true
  | _ => false

end RunPc

inductive Sweeper where
  | unstarted
  | stopping
  | exited
  deriving DecidableEq

structure RunState where
  w : Worker
  loop : WorkerLoop
  b : Backend
  now : Instant
  /-- The run's context. -/
  ctx : Ctx := Ctx.live
  /-- Immediate requests that set the flag and did not yet take the lock. -/
  calls : Nat := 0
  /-- Whether an immediate request has returned. -/
  answered : Bool := false
  pc : RunPc := .idle
  sweeper : Sweeper := .unstarted

namespace RunState

def start (w : Worker) (b : Backend) (now : Instant) : RunState := { w := w, loop := default, b := b, now := now }

/-- Whether the run must stop at once: an immediate request was made or its context ended. -/
def urgent (r : RunState) : Bool := r.w.immediate || r.ctx.done

/-- The run with the threads and the backend some work on the threads left. -/
def withThreads (r : RunState) (out : Threads × Backend) : RunState :=
  { r with w := { r.w with threads := out.1 }, b := out.2 }

/-- The run with the clean-up duty and the backend some work on it left. -/
def withClean (r : RunState) (out : CleanupJob × Backend) : RunState :=
  { r with w := { r.w with clean := out.1 }, b := out.2 }

/-- After a pass: the worker and the loop state it left, the context cancelled if the worker
was asked to stop at once, and a reconnection asked for after a failure the context did not
cause. -/
def afterPass (r : RunState) (out : (Option Fault × Worker × WorkerLoop) × Backend) : RunState :=
  let ctx := if out.1.2.1.immediate then r.ctx.cancel Fault.canceled else r.ctx
  { r with w := out.1.2.1, b := out.2, ctx := ctx, pc := .top,
           loop := if out.1.1.isSome && !ctx.done then { out.1.2.2 with reconnect := true } else out.1.2.2 }

/-- The deadline given to the jobs when the run stops: three cancel timeouts and two watch
intervals. -/
def jobsDeadline (r : RunState) : Int := r.w.settings.shutdownWait

/-- What goes on around the run: callers' requests, the caller's context ending, the clock, the
jobs' tasks returning, the clean-up sweep going on, and the goroutine that stops it. -/
inductive Around : RunState → RunState → Prop
  | graceful (r : RunState) : Around r { r with w := r.w.requestGraceful }
  /-- An immediate request sets the flag... -/
  | store (r : RunState) : Around r { r with w := r.w.requestImmediate, calls := r.calls + 1 }
  /-- ...then takes the lock and cancels the run's context once the run installed its cancel
  function. -/
  | lock (r : RunState) : 0 < r.calls →
      Around r { r with calls := r.calls - 1, answered := true,
                        ctx := if r.pc = .idle then r.ctx else r.ctx.cancel Fault.canceled }
  | parent (r : RunState) : Around r { r with ctx := r.ctx.cancel Fault.canceled }
  | clock (r : RunState) (now : Instant) : r.now ≤ now → Around r { r with now := now }
  | execReturns (r : RunState) (i : Nat) {e : Task} : (r.w.threads.get i).exec = some e → e.alive = true →
      Around r (r.withThreads ((r.w.threads.updateM i Thread.endExec).run r.b))
  | cancelReturns (r : RunState) (i : Nat) {c : Task} : (r.w.threads.get i).canc = some c → c.alive = true →
      Around r (r.withThreads ((r.w.threads.updateM i Thread.endCanc).run r.b))
  | cleanSettles (r : RunState) : Around r (r.withClean ((r.w.clean.settle r.now).run r.b))
  | cleanReleased (r : RunState) (name : Option String) (o : Outcome (Option Fault)) :
      Around r (r.withClean ((r.w.clean.release name o r.now).run r.b))
  /-- The goroutine stopping the clean-up makes a round, and exits once it reports no failure. -/
  | sweeper (r : RunState) (release : Option (Outcome (Option Fault))) : r.sweeper = .stopping →
      Around r { r.withClean (((r.w.clean.terminate r.now release).run r.b).1.2, ((r.w.clean.terminate r.now release).run r.b).2)
                   with sweeper := if ((r.w.clean.terminate r.now release).run r.b).1.1.isNone then .exited else .stopping }

/-- The run's own steps. -/
inductive Own : RunState → RunState → Prop
  | install (r : RunState) : r.pc = .idle → Own r { r with pc := .installed, loop := WorkerLoop.start r.w.settings r.now }
  | check (r : RunState) : r.pc = .installed →
      Own r { r with pc := .top, ctx := if r.w.immediate then r.ctx.cancel Fault.canceled else r.ctx }
  | halt (r : RunState) : r.pc = .top → r.urgent = true → Own r { r with pc := .cancelling r.w.threads.live }
  | proceed (r : RunState) : r.pc = .top → r.urgent = false → Own r { r with pc := .checked }
  | drained (r : RunState) : r.pc = .checked → r.w.draining r.now = true →
      ((r.w.threads.tick r.now).run r.b).1.count = 0 →
      Own r { r.withThreads ((r.w.threads.tick r.now).run r.b) with pc := .stopping, sweeper := .stopping }
  | drainOn (r : RunState) : r.pc = .checked → r.w.draining r.now = true →
      ((r.w.threads.tick r.now).run r.b).1.count ≠ 0 →
      Own r { r.withThreads ((r.w.threads.tick r.now).run r.b) with pc := .passing }
  | work (r : RunState) : r.pc = .checked → r.w.draining r.now = false → Own r { r with pc := .passing }
  | pass (r : RunState) : r.pc = .passing → Own r (r.afterPass ((r.w.step r.loop r.ctx r.now).run r.b))
  | cancelOne (r : RunState) (i : Nat) (rest : List Nat) : r.pc = .cancelling (i :: rest) →
      Own r { r.withThreads ((Threads.sweep [.running, .timeout] false r.now r.w.threads [i]).run r.b) with
              pc := .cancelling rest }
  | stop (r : RunState) : r.pc = .cancelling [] → Own r { r with pc := .stopping, sweeper := .stopping }
  | terminate (r : RunState) : r.pc = .stopping →
      Own r { r.withThreads (((r.w.threads.terminate r.now r.jobsDeadline).run r.b).1.2,
                ((r.w.threads.terminate r.now r.jobsDeadline).run r.b).2) with pc := .joining }
  | finish (r : RunState) : r.pc = .joining → r.sweeper = .exited →
      Own r { r with b := ((Backend.retire r.loop.db).run r.b).2, pc := .returned }

/-- A step of a run: its own, or one of what goes on around it. -/
inductive Step : RunState → RunState → Prop
  | around {r r' : RunState} : Around r r' → Step r r'
  | own {r r' : RunState} : Own r r' → Step r r'

variable {r r' : RunState}

theorem Around.pc (around : Around r r') : r'.pc = r.pc := by
  cases around <;> rfl

theorem urgent_of_immediate (flag : r.w.immediate = true) : r.urgent = true := by
  simp [urgent, flag]

theorem urgent_of_done (done : r.ctx.done = true) : r.urgent = true := by
  simp [urgent, done]

/-- A context once cancelled stays cancelled whatever else cancels it. -/
theorem done_of_cancel_if (c : Ctx) (p : Prop) [Decidable p] (done : c.done = true) :
    (if p then c.cancel Fault.canceled else c).done = true := by
  split
  · exact Ctx.done_cancel c _
  · exact done

theorem Step.urgent_mono (step : Step r r') (urgent : r.urgent = true) : r'.urgent = true := by
  have cases' : r.w.immediate = true ∨ r.ctx.done = true := by simpa [RunState.urgent] using urgent
  cases step with
  | around around =>
      cases around with
      | store => exact urgent_of_immediate rfl
      | lock pending =>
          rcases cases' with flag | done
          · exact urgent_of_immediate flag
          · exact urgent_of_done (by dsimp only; split <;> simp [done])
      | parent => exact urgent_of_done (Ctx.done_cancel _ _)
      | graceful | clock | execReturns | cancelReturns | cleanSettles | cleanReleased | sweeper => exact urgent
  | own own =>
      cases own with
      | check =>
          rcases cases' with flag | done
          · exact urgent_of_immediate flag
          · exact urgent_of_done (done_of_cancel_if _ _ done)
      | pass =>
          rcases cases' with flag | done
          · exact urgent_of_immediate ((Worker.step_keeps _ _ _ _ _).2 flag)
          · exact urgent_of_done (done_of_cancel_if _ _ done)
      | install | halt | proceed | drained | drainOn | work | cancelOne | stop | terminate | finish => exact urgent

theorem Step.calm_before (step : Step r r') (calm : r'.urgent = false) : r.urgent = false :=
  Bool.eq_false_iff.mpr fun urgent => by rw [step.urgent_mono urgent] at calm; cases calm

/-! ## The invariant -/

/-- What holds along every run from a worker that has no thread yet. -/
structure Inv (r : RunState) : Prop where
  /-- An immediate request in flight has set the flag. -/
  calls_flag : 0 < r.calls → r.w.immediate = true
  /-- A returned immediate request has set the flag. -/
  answered_flag : r.answered = true → r.w.immediate = true
  /-- Once the run has read the flag, a returned immediate request has cancelled its context. -/
  dekker : r.pc.flagRead = true → r.answered = true → r.ctx.done = true
  /-- Every thread keeps the pin for its cancellation while it runs uncancelled. -/
  armed : ∀ i, (r.w.threads.get i).Armed
  /-- Every thread whose execution is alive is owned. -/
  owned : r.w.threads.Owned
  /-- The run cancels job by job only when it must stop at once. -/
  halted : ∀ l, r.pc = .cancelling l → r.urgent = true
  /-- A shutdown that need not be at once owns no thread. -/
  emptied : r.pc.shutDown = true → r.urgent = true ∨ r.w.threads.live = []
  /-- While the run need not stop at once, every cancellation began after its job's timeout. -/
  timedOut : r.urgent = false → r.w.threads.TimedOut
  /-- The goroutine stopping the clean-up is started by the shutdown. -/
  sweeper_shutDown : r.sweeper ≠ .unstarted → r.pc.shutDown = true
  /-- Once that goroutine has exited, no sweep runs. -/
  sweeper_exited : r.sweeper = .exited → r.w.clean.running = false
  /-- The run returns only after that goroutine has exited. -/
  returned : r.pc = .returned → r.sweeper = .exited

theorem Inv.unstarted (inv : r.Inv) (before : r.pc.shutDown = false) : r.sweeper = .unstarted := by
  by_contra started
  have shut := inv.sweeper_shutDown started
  rw [before] at shut
  cases shut

theorem inv_start (w : Worker) (b : Backend) (now : Instant) (fresh : w.threads.all = []) : (start w b now).Inv where
  calls_flag := fun none => nomatch none
  answered_flag := fun none => nomatch none
  dekker := fun unread => nomatch unread
  armed := fun i => by
    show (w.threads.get i).Armed
    rw [Threads.get_of_length_le (by simp [fresh])]
    exact Thread.fresh_default.armed
  owned := fun i alive => by
    change (w.threads.get i).execAlive = true at alive
    rw [Threads.get_of_length_le (by simp [fresh])] at alive
    cases alive
  halted := fun _ at_ => nomatch at_
  emptied := fun shut => nomatch shut
  timedOut := fun _ i => by
    show (w.threads.get i).TimedOut
    rw [Threads.get_of_length_le (by simp [fresh])]
    exact Thread.fresh_default.timedOut
  sweeper_shutDown := fun started => absurd rfl started
  sweeper_exited := fun exited => nomatch exited
  returned := fun at_ => nomatch at_

theorem Inv.around (inv : r.Inv) (around : Around r r') : r'.Inv := by
  have before : r'.urgent = false → r.urgent = false := (Step.around around).calm_before
  cases around with
  | graceful => exact { inv with }
  | store =>
      exact { inv with
        calls_flag := fun _ => rfl
        answered_flag := fun _ => rfl
        halted := fun _ _ => urgent_of_immediate rfl
        emptied := fun _ => .inl (urgent_of_immediate rfl)
        timedOut := fun calm => nomatch calm.symm.trans (urgent_of_immediate rfl) }
  | lock pending =>
      have flag := inv.calls_flag pending
      exact { inv with
        calls_flag := fun _ => flag
        answered_flag := fun _ => flag
        dekker := fun read _ => by
          have installed : r.pc ≠ .idle := fun idle => by rw [idle] at read; cases read
          simp [installed]
        halted := fun _ _ => urgent_of_immediate flag
        emptied := fun _ => .inl (urgent_of_immediate flag)
        timedOut := fun calm => nomatch calm.symm.trans (urgent_of_immediate flag) }
  | parent =>
      exact { inv with
        dekker := fun _ _ => Ctx.done_cancel _ _
        halted := fun _ _ => urgent_of_done (Ctx.done_cancel _ _)
        emptied := fun _ => .inl (urgent_of_done (Ctx.done_cancel _ _))
        timedOut := fun calm => nomatch calm.symm.trans (urgent_of_done (Ctx.done_cancel _ _)) }
  | clock now later => exact { inv with }
  | execReturns i running alive =>
      have event := Threads.Event.endExec r.w.threads r.b i running alive
      exact { inv with
        armed := event.moves.armed inv.armed
        owned := event.owned inv.owned
        timedOut := fun calm => (inv.timedOut calm).endExec i r.b }
  | cancelReturns i cancelled alive =>
      have event := Threads.Event.endCanc r.w.threads r.b i cancelled alive
      exact { inv with
        armed := event.moves.armed inv.armed
        owned := event.owned inv.owned
        timedOut := fun calm => (inv.timedOut calm).endCanc i r.b }
  | cleanSettles =>
      exact { inv with
        sweeper_exited := fun exited => by
          rw [withClean, CleanupJob.settle_of_stopped (inv.sweeper_exited exited)]
          exact inv.sweeper_exited exited }
  | cleanReleased name o =>
      exact { inv with
        sweeper_exited := fun exited => by
          rw [withClean, CleanupJob.release_of_stopped (inv.sweeper_exited exited)]
          exact inv.sweeper_exited exited }
  | sweeper release going =>
      exact { inv with
        sweeper_shutDown := fun _ => inv.sweeper_shutDown (by rw [going]; decide)
        sweeper_exited := fun exited => by
          -- the goroutine exits only on a round that reported no failure
          dsimp only at exited
          split at exited
          · rename_i quiet
            exact CleanupJob.terminate_stopped (Option.isNone_iff_eq_none.mp quiet)
          · cases exited
        returned := fun at_ => nomatch going.symm.trans (inv.returned at_) }

/-- The run's own steps keep the invariant. -/
theorem Inv.own (inv : r.Inv) (own : Own r r') : r'.Inv := by
  have before : r'.urgent = false → r.urgent = false := (Step.own own).calm_before
  cases own with
  | install idle =>
      exact { inv with
        dekker := fun unread => nomatch unread
        halted := fun _ at_ => nomatch at_
        emptied := fun shut => nomatch shut
        sweeper_shutDown := fun started => absurd (inv.unstarted (by rw [idle]; rfl)) started
        returned := fun at_ => nomatch at_ }
  | check installed =>
      exact { inv with
        dekker := fun _ answered => by simp [inv.answered_flag answered]
        halted := fun _ at_ => nomatch at_
        emptied := fun shut => nomatch shut
        timedOut := fun calm => inv.timedOut (before calm)
        sweeper_shutDown := fun started => absurd (inv.unstarted (by rw [installed]; rfl)) started
        returned := fun at_ => nomatch at_ }
  | halt top urgent =>
      exact { inv with
        dekker := fun _ answered => inv.dekker (by rw [top]; rfl) answered
        halted := fun _ _ => urgent
        emptied := fun shut => nomatch shut
        sweeper_shutDown := fun started => absurd (inv.unstarted (by rw [top]; rfl)) started
        returned := fun at_ => nomatch at_ }
  | proceed top calm =>
      exact { inv with
        dekker := fun _ answered => inv.dekker (by rw [top]; rfl) answered
        halted := fun _ at_ => nomatch at_
        emptied := fun shut => nomatch shut
        sweeper_shutDown := fun started => absurd (inv.unstarted (by rw [top]; rfl)) started
        returned := fun at_ => nomatch at_ }
  | drained checked draining empty =>
      have tick := Threads.Step.tick r.w.threads r.now r.b
      exact {
        calls_flag := inv.calls_flag
        answered_flag := inv.answered_flag
        dekker := fun _ answered => inv.dekker (by rw [checked]; rfl) answered
        armed := tick.armed inv.armed
        owned := tick.owned inv.owned
        halted := fun _ at_ => nomatch at_
        emptied := fun _ => .inr (List.eq_nil_of_length_eq_zero empty)
        timedOut := fun calm => (Threads.PassOp.tick _ r.now r.b).timedOut (inv.timedOut (before calm))
        sweeper_shutDown := fun _ => rfl
        sweeper_exited := fun exited => nomatch exited
        returned := fun at_ => nomatch at_ }
  | drainOn checked draining busy =>
      have tick := Threads.Step.tick r.w.threads r.now r.b
      exact { inv with
        dekker := fun _ answered => inv.dekker (by rw [checked]; rfl) answered
        armed := tick.armed inv.armed
        owned := tick.owned inv.owned
        halted := fun _ at_ => nomatch at_
        emptied := fun shut => nomatch shut
        timedOut := fun calm => (Threads.PassOp.tick _ r.now r.b).timedOut (inv.timedOut (before calm))
        sweeper_shutDown := fun started => absurd (inv.unstarted (by rw [checked]; rfl)) started
        returned := fun at_ => nomatch at_ }
  | work checked fresh =>
      exact { inv with
        dekker := fun _ answered => inv.dekker (by rw [checked]; rfl) answered
        halted := fun _ at_ => nomatch at_
        emptied := fun shut => nomatch shut
        sweeper_shutDown := fun started => absurd (inv.unstarted (by rw [checked]; rfl)) started
        returned := fun at_ => nomatch at_ }
  | pass passing =>
      have keeps := Worker.step_keeps r.w r.loop r.ctx r.now r.b
      have unstarted := inv.unstarted (by rw [passing]; rfl)
      exact {
        calls_flag := fun pending => keeps.2 (inv.calls_flag pending)
        answered_flag := fun answered => keeps.2 (inv.answered_flag answered)
        dekker := fun _ answered => done_of_cancel_if _ _ (inv.dekker (by rw [passing]; rfl) answered)
        armed := Threads.PassOps.armed keeps.1 inv.armed
        owned := Threads.PassOps.owned keeps.1 inv.owned
        halted := fun _ at_ => nomatch at_
        emptied := fun shut => nomatch shut
        timedOut := fun calm => Threads.PassOps.timedOut keeps.1 (inv.timedOut (before calm))
        sweeper_shutDown := fun started => absurd unstarted started
        sweeper_exited := fun exited => nomatch unstarted.symm.trans exited
        returned := fun at_ => nomatch at_ }
  | cancelOne i rest at_ =>
      have swept := Threads.events_sweep [.running, .timeout] false r.now [i] r.w.threads r.b
      exact { inv with
        dekker := fun _ answered => inv.dekker (by rw [at_]; rfl) answered
        armed := swept.moves.armed inv.armed
        owned := swept.owned inv.owned
        halted := fun _ _ => inv.halted _ at_
        emptied := fun shut => nomatch shut
        timedOut := fun calm => nomatch calm.symm.trans (inv.halted _ at_)
        sweeper_shutDown := fun started => absurd (inv.unstarted (by rw [at_]; rfl)) started
        returned := fun at_ => nomatch at_ }
  | stop at_ =>
      exact { inv with
        dekker := fun _ answered => inv.dekker (by rw [at_]; rfl) answered
        halted := fun _ at' => nomatch at'
        emptied := fun _ => .inl (inv.halted _ at_)
        timedOut := fun calm => nomatch calm.symm.trans (inv.halted _ at_)
        sweeper_shutDown := fun _ => rfl
        sweeper_exited := fun exited => nomatch exited
        returned := fun at' => nomatch at' }
  | terminate at_ =>
      have ended := @Threads.events_terminate r.w.threads r.b r.now r.jobsDeadline
      have shut : r.pc.shutDown = true := by rw [at_]; rfl
      exact { inv with
        dekker := fun _ answered => inv.dekker (by rw [at_]; rfl) answered
        armed := ended.moves.armed inv.armed
        owned := ended.owned inv.owned
        halted := fun _ at' => nomatch at'
        emptied := fun _ => (inv.emptied shut).imp_right fun idle => by
          rw [withThreads, Threads.terminate_of_idle idle]
          exact idle
        timedOut := fun calm => by
          have idle := (inv.emptied shut).resolve_left (by rw [before calm]; decide)
          rw [withThreads, Threads.terminate_of_idle idle]
          exact inv.timedOut (before calm)
        sweeper_shutDown := fun _ => rfl
        returned := fun at' => nomatch at' }
  | finish at_ exited =>
      exact { inv with
        dekker := fun _ answered => inv.dekker (by rw [at_]; rfl) answered
        halted := fun _ at' => nomatch at'
        emptied := fun _ => inv.emptied (by rw [at_]; rfl)
        sweeper_shutDown := fun _ => rfl
        returned := fun _ => exited }

theorem Inv.step (inv : r.Inv) (step : Step r r') : r'.Inv := by
  cases step with
  | around around => exact inv.around around
  | own own => exact inv.own own

theorem Inv.reaches (inv : r.Inv) (run : Relation.ReflTransGen Step r r') : r'.Inv := by
  induction run with
  | refl => exact inv
  | tail _ step ih => exact ih.step step

/-! ## Every job settled by the return -/

theorem Step.follows (step : Step r r') : r.w.threads.Follows r'.w.threads := by
  cases step with
  | around around =>
      cases around with
      | execReturns i running alive => exact (Threads.Event.endExec r.w.threads r.b i running alive).moves.follows
      | cancelReturns i cancelled alive => exact (Threads.Event.endCanc r.w.threads r.b i cancelled alive).moves.follows
      | graceful | store | lock | parent | clock | cleanSettles | cleanReleased | sweeper => exact .refl _
  | own own =>
      cases own with
      | drained | drainOn => exact (Threads.Step.tick r.w.threads r.now r.b).follows
      | pass => exact Threads.PassOps.follows (Worker.step_keeps r.w r.loop r.ctx r.now r.b).1
      | cancelOne i =>
          exact (Threads.events_sweep [.running, .timeout] false r.now [i] r.w.threads r.b).moves.follows
      | terminate => exact (@Threads.events_terminate r.w.threads r.b r.now r.jobsDeadline).moves.follows
      | install | check | halt | proceed | work | stop | finish => exact .refl _

theorem Step.settled (step : Step r r') {i : Nat} (settled : (r.w.threads.get i).Settled) :
    (r'.w.threads.get i).Settled :=
  step.follows.lift (fun reaches => reaches.settled) Thread.not_settled_default settled

/-- The job `i` is settled, or its execution is alive and the run is still to cancel it. -/
def Covered (r : RunState) (i : Nat) : Prop :=
  (r.w.threads.get i).Settled ∨ ((r.w.threads.get i).execAlive = true ∧ ∃ l, r.pc = .cancelling l ∧ i ∈ l)

/-- Every step keeps a job covered: only the run's own cancellation of the job takes it off the
list, and that starts its cancellation unless the job is settled already. -/
theorem Step.covered (inv : r.Inv) (step : Step r r') {i : Nat} (covered : r.Covered i) : r'.Covered i := by
  rcases covered with settled | ⟨alive, l, at_, mem⟩
  · exact .inl (step.settled settled)
  have moved : (r'.w.threads.get i).execAlive = true ∨ (r'.w.threads.get i).Settled :=
    step.follows.lift (P := fun t => t.execAlive = true ∨ t.Settled) (fun reaches => reaches.alive_or_settled)
      (fun live => live.elim (fun alive => nomatch alive) Thread.not_settled_default) (.inl alive)
  -- a job still on the list: only the run's own cancellation reads the list, and every other
  -- own step is guarded by a place outside the cancelling
  cases step with
  | around around =>
      rcases moved with alive' | settled'
      · exact .inr ⟨alive', l, around.pc.trans at_, mem⟩
      · exact .inl settled'
  | own own =>
      cases own with
      | cancelOne j rest at' =>
          cases RunPc.cancelling.inj (at_.symm.trans at')
          rcases List.mem_cons.mp mem with rfl | later
          · exact .inl (Threads.settled_sweep_one (inv.armed i) (.inl alive) r.now r.b)
          · rcases moved with alive' | settled'
            · exact .inr ⟨alive', rest, rfl, later⟩
            · exact .inl settled'
      | stop at' =>
          cases RunPc.cancelling.inj (at_.symm.trans at')
          cases mem
      | install at' | check at' | halt at' _ | proceed at' _ | drained at' _ _ | drainOn at' _ _ | work at' _
      | pass at' | terminate at' | finish at' _ => nomatch at_.symm.trans at'

theorem Reaches.covered (inv : r.Inv) (run : Relation.ReflTransGen Step r r') {i : Nat} (covered : r.Covered i) :
    r'.Covered i := by
  induction run with
  | refl => exact covered
  | tail before step ih => exact step.covered (inv.reaches before) ih

theorem Step.covered_of_exit (inv : r.Inv) (step : Step r r') (inside : r.pc.pastLoop = false)
    (outside : r'.pc.pastLoop = true) {i : Nat}
    (live : (r'.w.threads.get i).status r'.now = .running ∨ (r'.w.threads.get i).status r'.now = .timeout) :
    r'.Covered i := by
  obtain ⟨e, running, alive, -⟩ := Thread.live_of_status live
  have alive' : (r'.w.threads.get i).execAlive = true := Thread.execAlive_iff.mpr ⟨e, running, alive⟩
  have owned := (inv.step step).owned i alive'
  cases step with
  | around around =>
      rw [around.pc, inside] at outside
      cases outside
  | own own =>
      cases own with
      | halt => exact .inr ⟨alive', _, rfl, owned⟩
      | drained _ _ empty =>
          change i ∈ ((r.w.threads.tick r.now).run r.b).1.live at owned
          rw [List.eq_nil_of_length_eq_zero empty] at owned
          cases owned
      | cancelOne _ _ at' | stop at' | terminate at' | finish at' _ =>
          rw [at'] at inside
          cases inside
      | install _ | check _ | proceed _ _ | drainOn _ _ _ | work _ _ | pass _ => cases outside

theorem Step.returns (step : Step r r') (before : r.pc ≠ .returned) (after : r'.pc = .returned) :
    r.pc = .joining ∧ r.sweeper = .exited ∧ r' = { r with b := ((Backend.retire r.loop.db).run r.b).2, pc := .returned } := by
  cases step with
  | around around => exact absurd (around.pc.symm.trans after) before
  | own own =>
      cases own with
      | finish joining exited => exact ⟨joining, exited, rfl⟩
      | halt | install | check | proceed | drained | drainOn | work | pass | cancelOne | stop | terminate =>
          cases after

/-- Past the loop, a run that need not stop at once owns no job: cancelling job by job needs
an urgent stop, and a shutdown that is not urgent began with none. -/
theorem Inv.idle_of_calm (inv : r.Inv) (calm : r.urgent = false) (past : r.pc.pastLoop = true) :
    r.w.threads.live = [] := by
  have shut : r.pc.shutDown = true := by
    cases at_ : r.pc with
    | cancelling l =>
        rw [inv.halted l at_] at calm
        cases calm
    | stopping | joining | returned => rfl
    | idle | installed | top | checked | passing =>
        rw [at_] at past
        cases past
  exact (inv.emptied shut).resolve_left (by rw [calm]; decide)

/-! ## Stopping a run -/

/-- How a worker's run stops, over every interleaving of its own steps with requests to stop,
the caller's context, the clock, the jobs' tasks returning and the clean-up, from a worker with
no thread yet. -/
theorem run_termination (w : Worker) (b : Backend) (now : Instant) (fresh : w.threads.all = []) :
    (∀ r, Relation.ReflTransGen Step (start w b now) r → r.pc.flagRead = true → r.answered = true →
      r.ctx.done = true) ∧
    (∀ r₀ r₁ r₂ i, Relation.ReflTransGen Step (start w b now) r₀ → Step r₀ r₁ → r₀.pc.pastLoop = false →
      r₁.pc.pastLoop = true → Relation.ReflTransGen Step r₁ r₂ → r₂.pc = .returned →
      ((r₁.w.threads.get i).status r₁.now = .running ∨ (r₁.w.threads.get i).status r₁.now = .timeout) →
      (r₂.w.threads.get i).Settled) ∧
    (∀ r, Relation.ReflTransGen Step (start w b now) r → r.urgent = false →
      r.w.threads.TimedOut ∧ (r.pc.pastLoop = true → r.w.threads.count = 0)) ∧
    (∀ r r', Relation.ReflTransGen Step (start w b now) r → Step r r' → r.pc ≠ .returned →
      r'.pc = .returned → r.sweeper = .exited ∧ r.w.clean.running = false ∧
      ∀ k, r.loop.db = some k → k < r.b.handles.length → (r'.b.handles.getD k default).retired = true) := by
  have inv : ∀ r, Relation.ReflTransGen Step (start w b now) r → r.Inv :=
    fun _ run => (inv_start w b now fresh).reaches run
  refine ⟨fun r run => (inv r run).dekker, ?_, ?_, ?_⟩
  · intro r₀ r₁ r₂ i run₀ exit inside outside run₁ returned live
    have covered := Reaches.covered (inv r₁ (run₀.tail exit)) run₁ (exit.covered_of_exit (inv r₀ run₀) inside outside live)
    exact covered.resolve_right fun ⟨_, _, at_, _⟩ => nomatch returned.symm.trans at_
  · intro r run calm
    refine ⟨(inv r run).timedOut calm, fun past => ?_⟩
    rw [Threads.count, (inv r run).idle_of_calm calm past]
    rfl
  · intro r r' run step before after
    obtain ⟨-, exited, rfl⟩ := step.returns before after
    refine ⟨exited, (inv r run).sweeper_exited exited, fun k db exists_ => ?_⟩
    show (((Backend.retire r.loop.db).run r.b).2.handles.getD k default).retired = true
    rw [db]
    exact Backend.retired_retire exists_

/-- A worker asked to stop at once before its run installs its cancel function: the run reads
the flag and cancels its context itself, then stops the clean-up and returns. -/
theorem early_request_returns :
    ∃ r r', Relation.ReflTransGen Step
      (start (Worker.new ⟨default, default, 1, 1, 1, 1, 1, 1, 1, 2, 1, 1, "", .every 1, "",
          [⟨"sync", "sync", 1, 1, none⟩]⟩ ⟨[⟨⟨"sync", "sync", 1, 1, none⟩, .test⟩], [("sync", 0)]⟩ 1 {} .zero (.table "") {}
          Dialect.sqlite "") {} .zero) r ∧ Step r r' ∧
      r.answered = true ∧ r.ctx.done = true ∧ r'.pc = .returned ∧ r.sweeper = .exited ∧
        r.w.clean.running = false :=
  have run := ((((((((Relation.ReflTransGen.single (Step.around (.store _))).tail
    (.around (.lock _ Nat.one_pos))).tail (.own (.install _ rfl))).tail (.own (.check _ rfl))).tail
    (.own (.halt _ rfl rfl))).tail (.own (.stop _ rfl))).tail (.own (.terminate _ rfl))).tail
    (.around (.sweeper _ none rfl)))
  have returns := Step.own (.finish _ rfl (by decide +kernel))
  have returned := (run_termination _ _ _ rfl).2.2.2 _ _ run returns (by decide +kernel) rfl
  ⟨_, _, run, returns, rfl, (run_termination _ _ _ rfl).1 _ run rfl rfl, rfl, returned.1, returned.2.1⟩

end RunState

end Foreman

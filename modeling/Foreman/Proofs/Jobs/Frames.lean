import Mathlib
import Foreman.Jobs.Type

/-!
# Job work leaves the handles alone

A job type's backend work (taking, running and cancelling a row, cleaning up, its queue query,
finding a view's schemas) touches the database and the view-schema cache, never the handles:
those are changed only by the threads and the clean-up duty that pin them. Each call has a
frame spec `⦃handles = H⦄ call ⦃handles = H⦄` proved by `mvcgen`; `handles_run` reads it as an
equation about the call's run (`JobRun.execute_handles`, `JobType.cleanUp_handles`, ...).
-/

namespace Foreman

open Std.Do

set_option autoImplicit false
set_option mvcgen.warning false

section Frames

variable (H : List Handle) (ctx : Ctx) (h : Handle) (now : Instant)

@[spec] theorem Backend.onDb_frame {α : Type} (m : StateM ScriptedDb α) :
    ⦃fun b => ⌜b.handles = H⌝⦄ Backend.onDb m ⦃⇓ _ b => ⌜b.handles = H⌝⦄ := by
  mvcgen [Backend.onDb]

@[spec] theorem Backend.viewSchemas_frame (d : Dialect) (view : String) :
    ⦃fun b => ⌜b.handles = H⌝⦄ Backend.viewSchemas ctx d view ⦃⇓ _ b => ⌜b.handles = H⌝⦄ := by
  mvcgen [Backend.viewSchemas] <;> simp_all +zetaDelta

@[spec] theorem HistoryRun.setStatus_frame (r : HistoryRun) (target source : String) :
    ⦃fun b => ⌜b.handles = H⌝⦄ r.setStatus ctx h now target source ⦃⇓ _ b => ⌜b.handles = H⌝⦄ := by
  mvcgen [HistoryRun.setStatus]
  simp_all

@[spec] theorem HistoryRun.start_frame (r : HistoryRun) :
    ⦃fun b => ⌜b.handles = H⌝⦄ r.start ctx h now ⦃⇓ _ b => ⌜b.handles = H⌝⦄ := by
  mvcgen [HistoryRun.start] <;> simp_all

@[spec] theorem HistoryRun.execute_frame (r : HistoryRun) :
    ⦃fun b => ⌜b.handles = H⌝⦄ r.execute ctx h now ⦃⇓ _ b => ⌜b.handles = H⌝⦄ := by
  mvcgen [HistoryRun.execute] <;> simp_all

@[spec] theorem HistoryRun.cancel_frame (r : HistoryRun) :
    ⦃fun b => ⌜b.handles = H⌝⦄ r.cancel ctx h now ⦃⇓ _ b => ⌜b.handles = H⌝⦄ := by
  mvcgen [HistoryRun.cancel] <;> simp_all

@[spec] theorem HistoryJob.failStale_frame (cfg : JobConfig) (t : HistoryTable)
    (rows : List (String × String × String)) :
    ⦃fun b => ⌜b.handles = H⌝⦄ HistoryJob.failStale ctx h now cfg t rows ⦃⇓ _ b => ⌜b.handles = H⌝⦄ := by
  induction rows with
  | nil => mvcgen [HistoryJob.failStale]
  | cons row rest ih =>
      mvcgen [HistoryJob.failStale, ih]
      simp_all

@[spec] theorem HistoryJob.cleanUp_frame (cfg : JobConfig) :
    ⦃fun b => ⌜b.handles = H⌝⦄ HistoryJob.cleanUp ctx h now cfg ⦃⇓ _ b => ⌜b.handles = H⌝⦄ := by
  mvcgen [HistoryJob.cleanUp] <;> simp_all

@[spec] theorem TestRun.setStatus_frame (r : TestRun) (target source : String) :
    ⦃fun b => ⌜b.handles = H⌝⦄ r.setStatus ctx h now target source ⦃⇓ _ b => ⌜b.handles = H⌝⦄ := by
  mvcgen [TestRun.setStatus]
  simp_all

@[spec] theorem TestRun.start_frame (r : TestRun) :
    ⦃fun b => ⌜b.handles = H⌝⦄ r.start ctx h now ⦃⇓ _ b => ⌜b.handles = H⌝⦄ := by
  mvcgen [TestRun.start] <;> simp_all

@[spec] theorem TestRun.execute_frame (r : TestRun) :
    ⦃fun b => ⌜b.handles = H⌝⦄ r.execute ctx h now ⦃⇓ _ b => ⌜b.handles = H⌝⦄ := by
  mvcgen [TestRun.execute] <;> simp_all

@[spec] theorem TestRun.cancel_frame (r : TestRun) :
    ⦃fun b => ⌜b.handles = H⌝⦄ r.cancel ctx h now ⦃⇓ _ b => ⌜b.handles = H⌝⦄ := by
  mvcgen [TestRun.cancel] <;> simp_all

@[spec] theorem TestJob.timeOutStale_frame (cutoff : Instant) (schemas : List String) :
    ⦃fun b => ⌜b.handles = H⌝⦄ TestJob.timeOutStale ctx h now cutoff schemas ⦃⇓ _ b => ⌜b.handles = H⌝⦄ := by
  induction schemas with
  | nil => mvcgen [TestJob.timeOutStale]
  | cons s rest ih => mvcgen [TestJob.timeOutStale, ih] <;> simp_all

@[spec] theorem TestJob.cleanUp_frame (cfg : JobConfig) :
    ⦃fun b => ⌜b.handles = H⌝⦄ TestJob.cleanUp ctx h now cfg ⦃⇓ _ b => ⌜b.handles = H⌝⦄ := by
  mvcgen [TestJob.cleanUp] <;> simp_all

@[spec] theorem JobRun.start_frame (e : JobRun) :
    ⦃fun b => ⌜b.handles = H⌝⦄ e.start ctx h now ⦃⇓ _ b => ⌜b.handles = H⌝⦄ := by
  cases e <;> mvcgen [JobRun.start] <;> simp_all

@[spec] theorem JobRun.execute_frame (e : JobRun) :
    ⦃fun b => ⌜b.handles = H⌝⦄ e.execute ctx h now ⦃⇓ _ b => ⌜b.handles = H⌝⦄ := by
  cases e <;> mvcgen [JobRun.execute] <;> simp_all

@[spec] theorem JobRun.cancel_frame (e : JobRun) :
    ⦃fun b => ⌜b.handles = H⌝⦄ e.cancel ctx h now ⦃⇓ _ b => ⌜b.handles = H⌝⦄ := by
  cases e <;> mvcgen [JobRun.cancel] <;> simp_all

@[spec] theorem JobType.cleanUp_frame (t : JobType) (calls : Nat) (cfg : JobConfig) :
    ⦃fun b => ⌜b.handles = H⌝⦄ t.cleanUp calls ctx h now cfg ⦃⇓ _ b => ⌜b.handles = H⌝⦄ := by
  cases t <;> mvcgen [JobType.cleanUp] <;> simp_all

@[spec] theorem HistoryJob.queueQuery_frame (cfg : JobConfig) :
    ⦃fun b => ⌜b.handles = H⌝⦄ HistoryJob.queueQuery ctx h cfg ⦃⇓ _ b => ⌜b.handles = H⌝⦄ := by
  mvcgen [HistoryJob.queueQuery] <;> simp_all

@[spec] theorem TestJob.queueQuery_frame (cfg : JobConfig) :
    ⦃fun b => ⌜b.handles = H⌝⦄ TestJob.queueQuery ctx h cfg ⦃⇓ _ b => ⌜b.handles = H⌝⦄ := by
  mvcgen [TestJob.queueQuery] <;> simp_all

@[spec] theorem JobType.queueQuery_frame (t : JobType) (cfg : JobConfig) :
    ⦃fun b => ⌜b.handles = H⌝⦄ t.queueQuery ctx h cfg ⦃⇓ _ b => ⌜b.handles = H⌝⦄ := by
  cases t <;> mvcgen [JobType.queueQuery]

end Frames

theorem handles_run {α : Type} {m : BackendM α}
    (frame : ∀ H, ⦃fun b => ⌜b.handles = H⌝⦄ m ⦃⇓ _ b => ⌜b.handles = H⌝⦄) (b : Backend) :
    (m.run b).2.handles = b.handles := by
  apply StateM.of_wp_run_eq rfl (fun r : α × Backend => r.2.handles = b.handles)
  exact fun _ => frame b.handles b rfl

section Runs

variable (ctx : Ctx) (h : Handle) (now : Instant) (b : Backend)

theorem JobRun.start_handles (e : JobRun) : ((e.start ctx h now).run b).2.handles = b.handles :=
  handles_run (fun H => JobRun.start_frame H ctx h now e) b

theorem JobRun.execute_handles (e : JobRun) : ((e.execute ctx h now).run b).2.handles = b.handles :=
  handles_run (fun H => JobRun.execute_frame H ctx h now e) b

theorem JobRun.cancel_handles (e : JobRun) : ((e.cancel ctx h now).run b).2.handles = b.handles :=
  handles_run (fun H => JobRun.cancel_frame H ctx h now e) b

theorem JobType.cleanUp_handles (t : JobType) (calls : Nat) (cfg : JobConfig) :
    ((t.cleanUp calls ctx h now cfg).run b).2.handles = b.handles :=
  handles_run (fun H => JobType.cleanUp_frame H ctx h now t calls cfg) b

end Runs

@[simp] theorem Backend.handle_run (db : Option Nat) (b : Backend) : ((Backend.handle db).run b).2 = b := by
  cases db <;> rfl

end Foreman

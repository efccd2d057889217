import Foreman.Threads.Collection
import Foreman.Proofs.Backend
import Mathlib.Logic.Relation

/-!
# The events of a job thread

A thread changes only as it is run, its start check is made, it is cancelled, its live tasks
are signalled again, and each of its two tasks returns. `Thread.Step` lists these, the
database work run from any backend at any time and a task returning only while alive;
`Thread.Reaches` is any interleaving. Each event has its spec lemma (`launch_of_idle`,
`cancel_of_armed`, `endExec_run`, ...), read off as a record update. Row, job configuration
and cancel timeout never change (`Reaches.row`, `Reaches.config`, `Reaches.cancelTimeout`).
Every operation of `Threads` moves each thread by events (`Threads.Moves`), and preparing a
row adds a thread that has not run (`Thread.Fresh`).
-/

namespace Foreman

set_option autoImplicit false

namespace Thread

variable {t : Thread} {db : Option Nat} {now : Instant} {b : Backend}

/-! ## The spec of each event -/

@[simp] theorem Task.alive_interrupt (k : Task) (f : Fault) : (k.interrupt f).alive = k.alive := rfl

@[simp] theorem Task.start_interrupt (k : Task) (f : Fault) : (k.interrupt f).start = k.start := rfl

@[simp] theorem Task.alive_mk (start : Instant) (ctx : Ctx) (w : Option Behaviour) :
    (Task.mk start ctx w).alive = w.isSome := rfl

@[simp] theorem Task.alive_ended (k : Task) : ({ k with waiting := none } : Task).alive = false := rfl

theorem launch_of_started (started : t.exec.isSome) : (t.launch db now).run b = (t, b) := by
  simp only [Thread.launch, started, ↓reduceIte, BackendM.run_pure]

theorem launch_of_idle (db : Option Nat) (now : Instant) (b : Backend) (idle : t.exec = none)
    (noCancel : t.canc = none) :
    ∃ e w, ((t.launch db now).run b).1 =
      { t with db := db, executor := e, reserved := w.isSome, exec := some { start := now, waiting := w } } := by
  simp only [Thread.launch, idle, noCancel, Option.isSome_none, Bool.false_eq_true, ↓reduceIte,
    BackendM.run_bind]
  generalize StateT.run (JobRun.execute _ _ _ now) _ = call
  obtain ⟨⟨outcome, e⟩, _⟩ := call
  cases outcome with
  | none => exact ⟨e, some (e.waitsOn "execute"), rfl⟩
  | some _ =>
      refine ⟨e, none, ?_⟩
      simp only [Thread.afterExec, Option.isNone_none, Bool.true_and, ↓reduceIte,
        BackendM.run_bind, BackendM.run_pure, Option.isSome_none]

theorem cancel_of_unarmed (unarmed : t.exec = none ∨ t.canc.isSome ∨ t.reserved = false) :
    (t.cancel now).run b = (t, b) := by
  rcases unarmed with idle | cancelled | released
  · simp only [Thread.cancel, idle, BackendM.run_pure]
  · cases exec : t.exec <;> simp only [Thread.cancel, exec, cancelled, Bool.true_or, ↓reduceIte,
      BackendM.run_pure]
  · cases exec : t.exec <;> simp only [Thread.cancel, exec, released, Bool.not_false, Bool.or_true, ↓reduceIte,
      BackendM.run_pure]

theorem cancel_of_armed (now : Instant) (b : Backend) {e : Task} (running : t.exec = some e)
    (noCancel : t.canc = none) (armed : t.reserved = true) :
    ∃ r w, ((t.cancel now).run b).1 =
      { t with reserved := false, exec := some (e.interrupt Fault.jobTimeout), cancels := t.cancels + 1,
               executor := r, canc := some { start := now, waiting := w } } := by
  simp only [Thread.cancel, running, noCancel, armed, Option.isSome_none, Bool.not_true, Bool.or_self,
    Bool.false_eq_true, ↓reduceIte, BackendM.run_bind]
  generalize StateT.run (JobRun.cancel _ _ _ now) _ = call
  obtain ⟨⟨outcome, r⟩, _⟩ := call
  cases outcome with
  | none => exact ⟨r, some (r.waitsOn "cancel"), rfl⟩
  | some _ => exact ⟨r, none, rfl⟩

theorem endExec_run :
    (t.endExec.run b).1 =
      { t with reserved := t.reserved && t.canc.isSome, exec := t.exec.map fun e => { e with waiting := none } } := by
  obtain ⟨row, config, executor, cancelTimeout, db, exec, canc, reserved, cancels, signals⟩ := t
  cases canc <;> cases reserved <;> rfl

theorem endCanc_run : (t.endCanc.run b).1 = { t with canc := t.canc.map fun c => { c with waiting := none } } :=
  rfl

theorem takeRow_run (t : Thread) (db : Option Nat) (ctx : Ctx) (now : Instant) (b : Backend) :
    ∃ e, ((t.takeRow db ctx now).run b).1.2 = { t with executor := e } :=
  ⟨_, rfl⟩

/-! ## Events and their interleavings -/

/-- One event of a thread. The database work of an event runs from any backend and at any
time; a task returns only while it is alive. -/
inductive Step : Thread → Thread → Prop
  | launch (t : Thread) (db : Option Nat) (now : Instant) (b : Backend) : Step t ((t.launch db now).run b).1
  | takeRow (t : Thread) (db : Option Nat) (ctx : Ctx) (now : Instant) (b : Backend) :
      Step t ((t.takeRow db ctx now).run b).1.2
  | cancel (t : Thread) (now : Instant) (b : Backend) : Step t ((t.cancel now).run b).1
  | resignal (t : Thread) : Step t t.resignal
  | endExec (t : Thread) (b : Backend) {e : Task} : t.exec = some e → e.alive = true → Step t (t.endExec.run b).1
  | endCanc (t : Thread) (b : Backend) {c : Task} : t.canc = some c → c.alive = true → Step t (t.endCanc.run b).1

abbrev Reaches : Thread → Thread → Prop := Relation.ReflTransGen Step

structure Fresh (t : Thread) : Prop where
  idle : t.exec = none
  noCancel : t.canc = none
  unreserved : t.reserved = false
  noCancels : t.cancels = 0
  noSignals : t.signals = 0

theorem live_of_returnsNow {k : Option Task} (returns : (k.map Task.returnsNow).getD false = true) :
    ∃ e, k = some e ∧ e.alive = true := by
  cases k with
  | none => simp at returns
  | some e =>
      refine ⟨e, rfl, ?_⟩
      simp only [Option.map_some, Option.getD_some, Task.returnsNow] at returns
      cases waiting : e.waiting with
      | none => simp [waiting] at returns
      | some _ => simp [Task.alive, waiting]

/-- Settling a thread runs the return of its execution, if it can return now, and then the
return of its cancellation, if it can. -/
theorem settle_eq : Thread.settle = fun t =>
    (if (t.exec.map Task.returnsNow).getD false then t.endExec else pure t) >>=
      fun t => if (t.canc.map Task.returnsNow).getD false then t.endCanc else pure t := by
  funext t
  unfold Thread.settle
  by_cases returns : (t.exec.map Task.returnsNow).getD false = true
  · simp only [returns, ↓reduceIte]
  · simp only [returns, Bool.false_eq_true, ↓reduceIte, pure_bind]

theorem live_of_waitsForRelease {k : Option Task}
    (waits : (match k.bind (·.waiting) with | some b => b.waitsForRelease | none => false) = true) :
    ∃ e, k = some e ∧ e.alive = true := by
  cases k with
  | none => simp at waits
  | some e =>
      refine ⟨e, rfl, ?_⟩
      cases waiting : e.waiting with
      | none => simp [waiting] at waits
      | some _ => simp [Task.alive, waiting]

/-! ## What no event changes -/

theorem Step.keeps {t t' : Thread} (step : Step t t') :
    t'.row = t.row ∧ t'.config = t.config ∧ t'.cancelTimeout = t.cancelTimeout := by
  cases step with
  | launch db now b =>
      cases exec : t.exec with
      | some e =>
          have started : t.exec.isSome := by rw [exec]; rfl
          rw [launch_of_started started]
          exact ⟨rfl, rfl, rfl⟩
      | none =>
          unfold Thread.launch
          simp only [exec, Option.isSome_none, Bool.false_eq_true, ↓reduceIte, BackendM.run_bind]
          generalize StateT.run (JobRun.execute _ _ _ now) _ = call
          obtain ⟨⟨outcome, _⟩, _⟩ := call
          cases outcome with
          | none => simp
          | some o =>
              simp only [Thread.afterExec, BackendM.run_bind]
              split <;> simp
  | takeRow db ctx now b =>
      obtain ⟨e, eq⟩ := takeRow_run t db ctx now b
      simp [eq]
  | cancel now b =>
      unfold Thread.cancel
      cases exec : t.exec with
      | none => simp
      | some e =>
          simp only
          split
          · simp
          · simp only [BackendM.run_bind]
            generalize StateT.run (JobRun.cancel _ _ _ now) _ = call
            obtain ⟨⟨outcome, _⟩, _⟩ := call
            cases outcome <;> simp
  | resignal => simp only [Thread.resignal]; split <;> simp
  | endExec b _ _ => simp [endExec_run]
  | endCanc b _ _ => simp [endCanc_run]

theorem Reaches.keeps {t t' : Thread} (reaches : Reaches t t') :
    t'.row = t.row ∧ t'.config = t.config ∧ t'.cancelTimeout = t.cancelTimeout := by
  induction reaches with
  | refl => exact ⟨rfl, rfl, rfl⟩
  | tail _ step ih =>
      obtain ⟨row, config, cancelTimeout⟩ := step.keeps
      exact ⟨row.trans ih.1, config.trans ih.2.1, cancelTimeout.trans ih.2.2⟩

end Thread

end Foreman

import Foreman.Proofs.Threads.Lifecycle
import Foreman.Proofs.Store.Holders
import Foreman.Proofs.Jobs.Frames

/-!
# The pins of job threads

Running a thread pins its handle twice, for the execution and kept for a cancellation; a
thread holds one pin for a live execution, one while the kept pin is held, and one for a live
cancellation (`Thread.holds`). The handles count exactly what the threads hold: every event
pins and unpins as its holdings change (`agrees_launch`, `agrees_cancel`, `agrees_endExec`,
...), and so does every operation of a collection, holding the sum (`Threads.pinsOn`,
`Threads.Event.agrees`). A thread reached from a fresh one holds at most two pins, none once
its tasks returned (`Wf.holds_le_two`, `Wf.holds_of_erasable`); only running adds a pin
(`pinsOn_cancel_le`, `Threads.Events.pinsOn_le`, ...).
-/

namespace Foreman

set_option autoImplicit false

namespace Thread

/-- The pins a thread holds: one for a live execution, one kept for a cancellation, one for
a live cancellation. -/
def holds (t : Thread) : Nat :=
  ((t.exec.map Task.alive).getD false).toNat + t.reserved.toNat + ((t.canc.map Task.alive).getD false).toNat

def pinsOn (t : Thread) (k : Nat) : Nat := onHandle t.db k * t.holds

variable {t : Thread} {b : Backend} {o : Nat → Nat} {r : Nat → Bool} {now : Instant}

/-! ## Holdings of a well-formed thread -/

theorem Wf.holds_le_two (wf : t.Wf) : t.holds ≤ 2 := by
  unfold holds
  cases kept : t.reserved
  · cases (t.exec.map Task.alive).getD false <;> cases (t.canc.map Task.alive).getD false <;> decide
  · obtain ⟨noCancel, -⟩ := wf.reserved_live kept
    cases (t.exec.map Task.alive).getD false <;> simp [noCancel]

theorem Wf.holds_of_erasable (wf : t.Wf) (erasable : t.erasable = true) : t.holds = 0 := by
  unfold Thread.erasable at erasable
  cases running : t.exec with
  | none => simp [running] at erasable
  | some e =>
      simp only [running, Bool.and_eq_true, Bool.not_eq_true'] at erasable
      obtain ⟨ended, cancEnded⟩ := erasable
      have unreserved : t.reserved = false := by
        cases kept : t.reserved
        · rfl
        · obtain ⟨-, e', running', alive⟩ := wf.reserved_live kept
          simp only [running, Option.some.injEq] at running'
          subst running'
          simp [ended] at alive
      simp [holds, running, ended, unreserved, cancEnded]

/-! ## Each event pins and lets go by its change of holdings -/

theorem agrees_launch (wf : t.Wf) {db : Option Nat} (usable : b.Usable r db)
    (agrees : b.Agrees (fun k => o k + t.pinsOn k) r) :
    ((t.launch db now).run b).2.Agrees (fun k => o k + ((t.launch db now).run b).1.pinsOn k) r := by
  cases started : t.exec.isSome
  case true => rwa [launch_of_started started]
  case false =>
    have idle : t.exec = none := by simpa using started
    have noCancel := wf.canc_after_run idle
    have unreserved : t.reserved = false := by
      cases kept : t.reserved
      · rfl
      · obtain ⟨-, e, running, -⟩ := wf.reserved_live kept
        simp [idle] at running
    have free : ∀ k, t.pinsOn k = 0 := fun k => by simp [pinsOn, holds, idle, noCancel, unreserved]
    have twice := ((agrees.congr fun k => by rw [free k]).pin usable).pin (Backend.usable_pin usable)
    simp only [Thread.launch, idle, Option.isSome_none, Bool.false_eq_true, ↓reduceIte, BackendM.run_bind,
      Backend.handle_run]
    generalize ((Backend.pin db).run ((Backend.pin db).run b).2).2 = b₂ at twice ⊢
    generalize ((Backend.handle db).run b₂).1 = h
    have framed := JobRun.execute_handles Ctx.live h now b₂ t.executor
    generalize (t.executor.execute Ctx.live h now).run b₂ = call at framed ⊢
    obtain ⟨⟨outcome, e⟩, b₃⟩ := call
    have held := twice.of_handles framed
    cases outcome with
    | none =>
        refine held.congr fun k => ?_
        simp [pinsOn, holds, noCancel]
        omega
    | some _ =>
        simp only [Thread.afterExec, noCancel, Option.isNone_none, Bool.true_and, ↓reduceIte, BackendM.run_bind,
          BackendM.run_pure]
        refine held.unpin.unpin.congr fun k => ?_
        simp [pinsOn, holds]

theorem agrees_cancel (wf : t.Wf) (agrees : b.Agrees (fun k => o k + t.pinsOn k) r) :
    ((t.cancel now).run b).2.Agrees (fun k => o k + ((t.cancel now).run b).1.pinsOn k) r := by
  by_cases unarmed : t.exec = none ∨ t.canc.isSome ∨ t.reserved = false
  · rwa [cancel_of_unarmed unarmed]
  · have armed : t.reserved = true := by simpa using (not_or.mp (not_or.mp unarmed).2).2
    obtain ⟨noCancel, e, running, alive⟩ := wf.reserved_live armed
    simp only [Thread.cancel, running, noCancel, armed, Option.isSome_none, Bool.not_true, Bool.or_self,
      Bool.false_eq_true, ↓reduceIte, BackendM.run_bind, Backend.handle_run]
    generalize ((Backend.handle t.db).run b).1 = h
    have framed := JobRun.cancel_handles Ctx.live h now b t.executor
    generalize (t.executor.cancel Ctx.live h now).run b = call at framed ⊢
    obtain ⟨⟨outcome, x⟩, b₃⟩ := call
    -- the kept pin passes to the cancellation, which gives it back if it returned at once
    have held : b₃.Agrees (fun k => o k + onHandle t.db k + onHandle t.db k) r :=
      (agrees.of_handles framed).congr fun k => by simp [pinsOn, holds, running, noCancel, armed, alive]; omega
    cases outcome with
    | none =>
        refine held.congr fun k => ?_
        simp [pinsOn, holds, alive]
        omega
    | some _ =>
        simp only [BackendM.run_bind, BackendM.run_pure]
        refine held.unpin.congr fun k => ?_
        simp [pinsOn, holds, alive]

theorem agrees_endExec {e : Task} (running : t.exec = some e) (alive : e.alive = true)
    (agrees : b.Agrees (fun k => o k + t.pinsOn k) r) :
    (t.endExec.run b).2.Agrees (fun k => o k + (t.endExec.run b).1.pinsOn k) r := by
  cases canc : t.canc with
  | none =>
      cases kept : t.reserved
      · simp only [Thread.endExec, Thread.afterExec, canc, kept, Option.isNone_none, Bool.and_false,
          Bool.false_eq_true, ↓reduceIte, BackendM.run_bind, BackendM.run_pure]
        have held : b.Agrees (fun k => o k + onHandle t.db k) r :=
          agrees.congr fun k => by simp [pinsOn, holds, running, alive, canc, kept]
        exact held.unpin.congr fun k => by simp [pinsOn, holds, running]
      · simp only [Thread.endExec, Thread.afterExec, canc, kept, Option.isNone_none, Bool.and_self,
          ↓reduceIte, BackendM.run_bind, BackendM.run_pure]
        have held : b.Agrees (fun k => o k + onHandle t.db k + onHandle t.db k) r :=
          agrees.congr fun k => by simp [pinsOn, holds, running, alive, canc, kept]; omega
        exact held.unpin.unpin.congr fun k => by simp [pinsOn, holds, running]
  | some c =>
      simp only [Thread.endExec, Thread.afterExec, canc, Option.isNone_some, Bool.false_and,
        Bool.false_eq_true, ↓reduceIte, BackendM.run_bind, BackendM.run_pure]
      have held : b.Agrees (fun k => o k + onHandle t.db k * (t.reserved.toNat + c.alive.toNat) +
          onHandle t.db k) r :=
        agrees.congr fun k => by simp [pinsOn, holds, running, alive, canc]; ring
      exact held.unpin.congr fun k => by simp [pinsOn, holds, running]

theorem agrees_endCanc {c : Task} (cancelled : t.canc = some c) (alive : c.alive = true)
    (agrees : b.Agrees (fun k => o k + t.pinsOn k) r) :
    (t.endCanc.run b).2.Agrees (fun k => o k + (t.endCanc.run b).1.pinsOn k) r := by
  simp only [Thread.endCanc, BackendM.run_bind, BackendM.run_pure]
  have held : b.Agrees (fun k => o k + onHandle t.db k *
      (((t.exec.map Task.alive).getD false).toNat + t.reserved.toNat) + onHandle t.db k) r :=
    agrees.congr fun k => by simp [pinsOn, holds, cancelled, alive]; ring
  exact held.unpin.congr fun k => by simp [pinsOn, holds, cancelled]

theorem pinsOn_resignal (k : Nat) : t.resignal.pinsOn k = t.pinsOn k := by
  obtain ⟨again, signals, keeps, eq⟩ := resignal_shape (t := t)
  rw [eq]
  cases exec : t.exec <;> cases canc : t.canc <;> simp [pinsOn, holds, exec, canc, (keeps _).2]

theorem takeRow_handles (db : Option Nat) (ctx : Ctx) (now : Instant) (b : Backend) :
    ((t.takeRow db ctx now).run b).2.handles = b.handles := by
  simp only [Thread.takeRow, BackendM.run_bind, Backend.handle_run]
  rw [← JobRun.start_handles ctx ((Backend.handle db).run b).1 now b t.executor]
  rfl

theorem pinsOn_takeRow (db : Option Nat) (ctx : Ctx) (now : Instant) (b : Backend) (k : Nat) :
    ((t.takeRow db ctx now).run b).1.2.pinsOn k = t.pinsOn k := by
  obtain ⟨e, eq⟩ := takeRow_run t db ctx now b
  rw [eq]
  rfl

/-! ## Only running a thread adds pins -/

theorem pinsOn_launch_le (db : Option Nat) (b : Backend) (wf : t.Wf) (k : Nat) :
    ((t.launch db now).run b).1.pinsOn k ≤ t.pinsOn k + 2 * onHandle db k := by
  cases started : t.exec.isSome
  · have idle : t.exec = none := by simpa using started
    obtain ⟨e, w, eq⟩ := launch_of_idle db now b idle (wf.canc_after_run idle)
    rw [eq]
    simp only [pinsOn, holds, wf.canc_after_run idle]
    cases w
    · simp
    · simp
      omega
  · rw [launch_of_started started]
    exact Nat.le_add_right _ _

theorem pinsOn_cancel_le (wf : t.Wf) (b : Backend) (k : Nat) : ((t.cancel now).run b).1.pinsOn k ≤ t.pinsOn k := by
  rcases cancel_cases wf now b with same | ⟨noCancel, armed, e, x, w, running, alive, eq⟩
  · rw [same]
  · rw [eq]
    simp only [pinsOn, holds, running, noCancel, armed]
    cases w
    · simp [alive]
      omega
    · simp [alive]

theorem pinsOn_endExec_le (b : Backend) (k : Nat) : (t.endExec.run b).1.pinsOn k ≤ t.pinsOn k := by
  rw [endExec_run]
  simp only [pinsOn, holds]
  apply Nat.mul_le_mul_left
  cases t.exec <;> cases t.reserved <;> cases t.canc.isSome <;> simp

theorem pinsOn_endCanc_le (b : Backend) (k : Nat) : (t.endCanc.run b).1.pinsOn k ≤ t.pinsOn k := by
  rw [endCanc_run]
  simp only [pinsOn, holds]
  apply Nat.mul_le_mul_left
  cases t.canc <;> simp

end Thread

namespace Threads

def pinsOn (ts : Threads) (k : Nat) : Nat := (ts.all.map fun t => t.pinsOn k).sum

/-- Every thread of the collection is well formed. -/
def Wf (ts : Threads) : Prop := ∀ i, (ts.get i).Wf

variable {ts : Threads} {b : Backend} {o : Nat → Nat} {r : Nat → Bool}

/-! ## One thread's pins in the sum -/

theorem sum_set_add (L : List Nat) {i : Nat} (inRange : i < L.length) (a : Nat) :
    (L.set i a).sum + L[i] = L.sum + a := by
  conv_rhs => rw [← List.set_getElem_self inRange]
  simp only [List.sum_set, if_pos inRange]
  omega

theorem pinsOn_set {i : Nat} (inRange : i < ts.all.length) (t : Thread) (k : Nat) :
    ({ ts with all := ts.all.set i t } : Threads).pinsOn k + (ts.get i).pinsOn k = ts.pinsOn k + t.pinsOn k := by
  have counted := sum_set_add (ts.all.map fun t => t.pinsOn k) (by simpa using inRange) (t.pinsOn k)
  simpa [Threads.pinsOn, List.map_set, Threads.get, List.getD_eq_getElem?_getD, inRange] using counted

theorem pinsOn_set_of_eq {i : Nat} {t : Thread} (same : ∀ k, t.pinsOn k = (ts.get i).pinsOn k) (k : Nat) :
    ({ ts with all := ts.all.set i t } : Threads).pinsOn k = ts.pinsOn k := by
  by_cases inRange : i < ts.all.length
  · have := pinsOn_set inRange t k
    rw [same k] at this
    omega
  · rw [List.set_eq_of_length_le (Nat.le_of_not_lt inRange)]

theorem pinsOn_set_le {i : Nat} {t : Thread} {k c : Nat} (le : t.pinsOn k ≤ (ts.get i).pinsOn k + c) :
    ({ ts with all := ts.all.set i t } : Threads).pinsOn k ≤ ts.pinsOn k + c := by
  by_cases inRange : i < ts.all.length
  · have := pinsOn_set inRange t k
    omega
  · rw [List.set_eq_of_length_le (Nat.le_of_not_lt inRange)]
    exact Nat.le_add_right _ _

theorem pinsOn_set_le_self {i : Nat} {t : Thread} {k : Nat} (le : t.pinsOn k ≤ (ts.get i).pinsOn k) :
    ({ ts with all := ts.all.set i t } : Threads).pinsOn k ≤ ts.pinsOn k :=
  pinsOn_set_le (c := 0) le

theorem pinsOn_get_le (ts : Threads) (i k : Nat) : (ts.get i).pinsOn k ≤ ts.pinsOn k := by
  by_cases inRange : i < ts.all.length
  · have := pinsOn_set inRange (default : Thread) k
    have free : (default : Thread).pinsOn k = 0 := rfl
    omega
  · rw [get_of_length_le (Nat.le_of_not_lt inRange)]
    exact Nat.zero_le _

/-- What one thread's work does to the handles, the collection's work on that thread does:
the other threads' pins count with the other holders. -/
theorem agrees_set {i : Nat} (inRange : i < ts.all.length) {t : Thread} {b' : Backend}
    (thread : ∀ o' : Nat → Nat, b.Agrees (fun k => o' k + (ts.get i).pinsOn k) r →
      b'.Agrees (fun k => o' k + t.pinsOn k) r)
    (agrees : b.Agrees (fun k => o k + ts.pinsOn k) r) :
    b'.Agrees (fun k => o k + ({ ts with all := ts.all.set i t } : Threads).pinsOn k) r := by
  have others := fun k => pinsOn_set inRange (default : Thread) k
  have rest := fun k => pinsOn_set inRange t k
  have free : ∀ k, (default : Thread).pinsOn k = 0 := fun _ => rfl
  have moved := thread (fun k => o k + ({ ts with all := ts.all.set i default } : Threads).pinsOn k)
    (agrees.congr fun k => by have := others k; rw [free k] at this; omega)
  exact moved.congr fun k => by have := others k; have := rest k; rw [free k] at *; omega

theorem inRange_of_running {i : Nat} {e : Task} (running : (ts.get i).exec = some e) : i < ts.all.length :=
  Nat.lt_of_not_le fun outside => by
    rw [get_of_length_le outside] at running
    cases running

theorem inRange_of_cancelled {i : Nat} {c : Task} (cancelled : (ts.get i).canc = some c) : i < ts.all.length :=
  Nat.lt_of_not_le fun outside => by
    rw [get_of_length_le outside] at cancelled
    cases cancelled

/-! ## Operations of a collection -/

theorem Moves.wf {ts' : Threads} (moves : Moves ts ts') (wf : ts.Wf) : ts'.Wf :=
  fun i => ((moves.2 i).wf_path (wf i) ⟨0⟩).1

theorem Event.agrees {x y : Threads × Backend} (event : Event x y) (wf : x.1.Wf)
    (agrees : x.2.Agrees (fun k => o k + x.1.pinsOn k) r) : y.2.Agrees (fun k => o k + y.1.pinsOn k) r := by
  cases event with
  | cancel ts b i now inRange =>
      rw [updateM_run]
      exact agrees_set inRange (fun _ held => Thread.agrees_cancel (wf i) held) agrees
  | resignal ts b i =>
      exact agrees.congr fun k => by rw [Threads.update, pinsOn_set_of_eq (fun k => Thread.pinsOn_resignal k)]
  | endExec ts b i running alive =>
      rw [updateM_run]
      exact agrees_set (inRange_of_running running) (fun _ held => Thread.agrees_endExec running alive held) agrees
  | endCanc ts b i cancelled alive =>
      rw [updateM_run]
      exact agrees_set (inRange_of_cancelled cancelled) (fun _ held => Thread.agrees_endCanc cancelled alive held)
        agrees
  | prune ts b => exact agrees

theorem Event.pinsOn_le {x y : Threads × Backend} (event : Event x y) (wf : x.1.Wf) (k : Nat) :
    y.1.pinsOn k ≤ x.1.pinsOn k := by
  cases event with
  | cancel ts b i now inRange =>
      rw [updateM_run]
      exact pinsOn_set_le_self (Thread.pinsOn_cancel_le (wf i) b k)
  | resignal ts b i => exact Nat.le_of_eq (pinsOn_set_of_eq (fun k => Thread.pinsOn_resignal k) k)
  | endExec ts b i running alive =>
      rw [updateM_run]
      exact pinsOn_set_le_self (Thread.pinsOn_endExec_le b k)
  | endCanc ts b i cancelled alive =>
      rw [updateM_run]
      exact pinsOn_set_le_self (Thread.pinsOn_endCanc_le b k)
  | prune ts b => exact Nat.le_refl _

theorem Events.agrees {x y : Threads × Backend} (events : Events x y) (wf : x.1.Wf)
    (agrees : x.2.Agrees (fun k => o k + x.1.pinsOn k) r) :
    y.1.Wf ∧ y.2.Agrees (fun k => o k + y.1.pinsOn k) r ∧ ∀ k, y.1.pinsOn k ≤ x.1.pinsOn k := by
  induction events with
  | refl => exact ⟨wf, agrees, fun _ => Nat.le_refl _⟩
  | tail _ event ih =>
      obtain ⟨wfMid, agreesMid, fewer⟩ := ih
      exact ⟨event.moves.wf wfMid, event.agrees wfMid agreesMid,
        fun k => (event.pinsOn_le wfMid k).trans (fewer k)⟩

theorem agrees_start (wf : ts.Wf) {i : Nat} {db : Option Nat} {now : Instant} (inRange : i < ts.all.length)
    (usable : b.Usable r db) (agrees : b.Agrees (fun k => o k + ts.pinsOn k) r) :
    ((ts.start i db now).run b).2.Agrees (fun k => o k + ((ts.start i db now).run b).1.pinsOn k) r := by
  rw [Threads.start, BackendM.run_bind, BackendM.run_pure, updateM_run]
  exact agrees_set inRange (fun _ held => Thread.agrees_launch (wf i) usable held) agrees

theorem pinsOn_start_le (wf : ts.Wf) (i : Nat) (db : Option Nat) (now : Instant) (k : Nat) :
    ((ts.start i db now).run b).1.pinsOn k ≤ ts.pinsOn k + 2 * onHandle db k := by
  rw [Threads.start, BackendM.run_bind, BackendM.run_pure, updateM_run]
  exact pinsOn_set_le (Thread.pinsOn_launch_le db b (wf i) k)

theorem takeRow_handles (i : Nat) (db : Option Nat) (ctx : Ctx) (now : Instant) :
    ((ts.takeRow i db ctx now).run b).2.handles = b.handles := by
  simp only [Threads.takeRow, BackendM.run_bind, BackendM.run_pure]
  exact Thread.takeRow_handles db ctx now b

theorem pinsOn_takeRow (i : Nat) (db : Option Nat) (ctx : Ctx) (now : Instant) (k : Nat) :
    ((ts.takeRow i db ctx now).run b).1.2.pinsOn k = ts.pinsOn k := by
  simp only [Threads.takeRow, BackendM.run_bind, BackendM.run_pure]
  exact pinsOn_set_of_eq (fun k => Thread.pinsOn_takeRow db ctx now b k) k

theorem pinsOn_prepare {row : QueueRow} {make : Definition JobType → QueueRow → Except Fault JobRun} {i : Nat}
    {ts' : Threads} (prepared : ts.prepare row make = .ok (i, ts')) (k : Nat) : ts'.pinsOn k = ts.pinsOn k := by
  obtain ⟨t, fresh, -, -, rfl⟩ := prepare_fresh prepared
  simp [Threads.pinsOn, Thread.pinsOn, Thread.holds, fresh.idle, fresh.noCancel, fresh.unreserved]

theorem wf_prepare {row : QueueRow} {make : Definition JobType → QueueRow → Except Fault JobRun} {i : Nat}
    {ts' : Threads} (prepared : ts.prepare row make = .ok (i, ts')) (wf : ts.Wf) : ts'.Wf := by
  obtain ⟨t, fresh, -, -, rfl⟩ := prepare_fresh prepared
  intro j
  by_cases old : j < ts.all.length
  · rw [get_append_of_lt old]
    exact wf j
  · rcases get_append_of_le (t := t) (Nat.le_of_not_lt old) with added | unused
    · rw [added]
      exact fresh.wf
    · rw [unused]
      exact Thread.fresh_default.wf

end Threads

end Foreman

import Foreman.Proofs.Threads.Pins

/-!
# Who starts a job's cancellation

A job is *settled* once its compensating cancellation started or its execution returned, and
stays so (`Thread.Step.settled`). The kept pin is held while the execution is alive and no
cancellation started (`Thread.Armed`), so cancelling a running or timed-out job starts its
cancellation (`Threads.settled_sweep_one`), and a thread with a live execution is owned by its
collection (`Threads.Owned`). A cancellation a tick starts follows a run longer than the
job's timeout (`Thread.TimedOut`).
-/

namespace Foreman

set_option autoImplicit false

namespace Thread

variable {t t' : Thread} {now : Instant} {b : Backend}

def execAlive (t : Thread) : Bool := (t.exec.map Task.alive).getD false

/-- The compensating cancellation was started, or the execution returned. -/
def Settled (t : Thread) : Prop := t.canc.isSome ∨ ∃ e, t.exec = some e ∧ e.alive = false

/-- The pin kept for a cancellation is still held while the execution is alive and no
cancellation was started. -/
def Armed (t : Thread) : Prop := ∀ e, t.exec = some e → e.alive = true → t.canc = none → t.reserved = true

/-- A started cancellation began after the job had run for longer than its own timeout. -/
def TimedOut (t : Thread) : Prop :=
  ∀ c, t.canc = some c → ∃ e, t.exec = some e ∧ 0 < t.config.timeout ∧ t.config.timeout < c.start.since e.start

theorem execAlive_iff : t.execAlive = true ↔ ∃ e, t.exec = some e ∧ e.alive = true := by
  unfold execAlive
  cases t.exec <;> simp

/-! ## Reading the status -/

/-- A running or timed-out job has its execution alive and no cancellation. -/
theorem live_of_status (live : t.status now = .running ∨ t.status now = .timeout) :
    ∃ e, t.exec = some e ∧ e.alive = true ∧ t.canc = none := by
  cases exec : t.exec with
  | none => rw [status_idle exec] at live; simp at live
  | some e =>
      cases canc : t.canc with
      | none =>
          refine ⟨e, rfl, ?_, rfl⟩
          by_contra ended
          rw [status_finished exec canc (by simpa using ended)] at live
          simp at live
      | some c =>
          rcases @status_of_cancelled _ now _ _ exec canc with s | s | s <;> rw [s] at live <;> simp at live

theorem overran_of_timeout (late : t.status now = .timeout) :
    ∃ e, t.exec = some e ∧ t.canc = none ∧ 0 < t.config.timeout ∧ t.config.timeout < now.since e.start := by
  cases exec : t.exec with
  | none => rw [status_idle exec] at late; cases late
  | some e =>
      cases canc : t.canc with
      | none =>
          refine ⟨e, rfl, rfl, ?_⟩
          simp only [Thread.status, exec, canc] at late
          split at late
          · rename_i overran
            simp only [Bool.and_eq_true, decide_eq_true_eq] at overran
            exact ⟨overran.1.2, overran.2⟩
          · split at late <;> cases late
      | some c =>
          rcases @status_of_cancelled _ now _ _ exec canc with s | s | s <;> rw [s] at late <;> cases late

/-! ## The events, once more -/

theorem cancel_shape (now : Instant) (b : Backend) :
    ((t.cancel now).run b).1 = t ∨
      ∃ e r w, t.exec = some e ∧ t.canc = none ∧ t.reserved = true ∧
        ((t.cancel now).run b).1 =
          { t with reserved := false, exec := some (e.interrupt Fault.jobTimeout), cancels := t.cancels + 1,
                   executor := r, canc := some { start := now, waiting := w } } := by
  by_cases unarmed : t.exec = none ∨ t.canc.isSome ∨ t.reserved = false
  · exact .inl (by rw [cancel_of_unarmed unarmed])
  · obtain ⟨ran, kept⟩ := not_or.mp unarmed
    obtain ⟨e, running⟩ := Option.ne_none_iff_exists'.mp ran
    have noCancel : t.canc = none := by simpa using (not_or.mp kept).1
    have armed : t.reserved = true := by simpa using (not_or.mp kept).2
    obtain ⟨r, w, eq⟩ := cancel_of_armed now b running noCancel armed
    exact .inr ⟨e, r, w, running, noCancel, armed, eq⟩

theorem canc_launch (db : Option Nat) (now : Instant) (b : Backend) : ((t.launch db now).run b).1.canc = t.canc := by
  cases exec : t.exec with
  | some e => rw [launch_of_started (by simp [exec])]
  | none =>
      unfold Thread.launch
      simp only [exec, Option.isSome_none, Bool.false_eq_true, ↓reduceIte, BackendM.run_bind]
      generalize StateT.run (JobRun.execute _ _ _ now) _ = call
      obtain ⟨⟨outcome, _⟩, _⟩ := call
      cases outcome <;> simp [Thread.afterExec]
      split <;> simp

theorem execAlive_cancel : ((t.cancel now).run b).1.execAlive = t.execAlive := by
  rcases cancel_shape now b with same | ⟨e, r, w, running, -, -, eq⟩
  · rw [same]
  · rw [eq]
    simp [execAlive, running]

theorem execAlive_resignal : t.resignal.execAlive = t.execAlive := by
  obtain ⟨again, signals, keeps, eq⟩ := resignal_shape (t := t)
  rw [eq]
  cases exec : t.exec <;> simp [execAlive, exec, (keeps _).2]

/-! ## Settled jobs -/

theorem not_settled_default : ¬ (default : Thread).Settled := by
  rintro (cancelled | ⟨e, running, -⟩)
  · cases cancelled
  · cases running

theorem Step.settled (step : Step t t') (settled : t.Settled) : t'.Settled := by
  cases step with
  | launch db now b =>
      cases exec : t.exec with
      | some e => rwa [launch_of_started (by simp [exec])]
      | none =>
          have started : t.canc.isSome := settled.resolve_right (by simp [exec])
          exact .inl (by rw [canc_launch]; exact started)
  | takeRow db ctx now b =>
      obtain ⟨e, eq⟩ := takeRow_run t db ctx now b
      rw [eq]
      exact settled
  | cancel now b =>
      rcases cancel_shape now b with same | ⟨e, r, w, -, -, -, eq⟩
      · rwa [same]
      · rw [eq]
        exact .inl rfl
  | resignal =>
      obtain ⟨again, signals, keeps, eq⟩ := resignal_shape (t := t)
      rw [eq]
      rcases settled with cancelled | ⟨e, exec, ended⟩
      · exact .inl (by simpa using cancelled)
      · exact .inr ⟨again e, by simp [exec], (keeps e).2.trans ended⟩
  | endExec b running alive => exact .inr ⟨_, by rw [endExec_run, running]; rfl, rfl⟩
  | endCanc b cancelled alive => exact .inl (by rw [endCanc_run, cancelled]; rfl)

theorem Reaches.settled (reaches : Reaches t t') (settled : t.Settled) : t'.Settled := by
  induction reaches with
  | refl => exact settled
  | tail _ step ih => exact step.settled ih

theorem Step.alive_or_settled (step : Step t t') (live : t.execAlive = true ∨ t.Settled) :
    t'.execAlive = true ∨ t'.Settled := by
  rcases live with alive | settled
  · cases step with
    | launch db now b =>
        obtain ⟨e, running, -⟩ := execAlive_iff.mp alive
        rw [launch_of_started (by simp [running])]
        exact .inl alive
    | takeRow db ctx now b =>
        obtain ⟨e, eq⟩ := takeRow_run t db ctx now b
        rw [eq]
        exact .inl alive
    | cancel now b => exact .inl (execAlive_cancel.trans alive)
    | resignal => exact .inl (execAlive_resignal.trans alive)
    | endExec b running _ => exact .inr (.inr ⟨_, by rw [endExec_run, running]; rfl, rfl⟩)
    | endCanc b cancelled _ => exact .inr (.inl (by rw [endCanc_run, cancelled]; rfl))
  · exact .inr (step.settled settled)

theorem Reaches.alive_or_settled (reaches : Reaches t t') (live : t.execAlive = true ∨ t.Settled) :
    t'.execAlive = true ∨ t'.Settled := by
  induction reaches with
  | refl => exact live
  | tail _ step ih => exact step.alive_or_settled ih

/-! ## The pin kept for a cancellation -/

theorem Fresh.armed (fresh : t.Fresh) : t.Armed := fun _ running => nomatch fresh.idle.symm.trans running

theorem Step.armed (step : Step t t') (armed : t.Armed) : t'.Armed := by
  cases step with
  | launch db now b =>
      cases exec : t.exec with
      | some e => rwa [launch_of_started (by simp [exec])]
      | none =>
          cases canc : t.canc with
          | some c =>
              intro _ _ _ noCancel
              rw [canc_launch, canc] at noCancel
              cases noCancel
          | none =>
              obtain ⟨executor, w, eq⟩ := launch_of_idle db now b exec canc
              rw [eq]
              -- the pin is kept exactly when the execution did not return at once
              intro e running alive _
              cases running
              simpa using alive
  | takeRow db ctx now b =>
      obtain ⟨e, eq⟩ := takeRow_run t db ctx now b
      rw [eq]
      exact armed
  | cancel now b =>
      rcases cancel_shape now b with same | ⟨e, r, w, -, -, -, eq⟩
      · rwa [same]
      · rw [eq]
        intro _ _ _ noCancel
        cases noCancel
  | resignal =>
      obtain ⟨again, signals, keeps, eq⟩ := resignal_shape (t := t)
      rw [eq]
      intro e' running alive noCancel
      obtain ⟨e, exec, rfl⟩ := Option.map_eq_some_iff.mp running
      exact armed e exec ((keeps e).2.symm.trans alive) (Option.map_eq_none_iff.mp noCancel)
  | endExec b running alive =>
      rw [endExec_run]
      intro e' exec' alive' _
      rw [running] at exec'
      cases exec'
      cases alive'
  | endCanc b cancelled _ =>
      rw [endCanc_run]
      intro _ _ _ noCancel
      rw [cancelled] at noCancel
      cases noCancel

/-! ## Cancellations begun after the job's timeout -/

theorem Fresh.timedOut (fresh : t.Fresh) : t.TimedOut := fun _ cancelled => nomatch fresh.noCancel.symm.trans cancelled

theorem TimedOut.launch (late : t.TimedOut) (db : Option Nat) (now : Instant) (b : Backend) :
    ((t.launch db now).run b).1.TimedOut := by
  cases exec : t.exec with
  | some e => rwa [launch_of_started (by simp [exec])]
  | none =>
      intro c cancelled
      rw [canc_launch] at cancelled
      obtain ⟨e, running, -⟩ := late c cancelled
      rw [exec] at running
      cases running

theorem TimedOut.takeRow (late : t.TimedOut) (db : Option Nat) (ctx : Ctx) (now : Instant) (b : Backend) :
    ((t.takeRow db ctx now).run b).1.2.TimedOut := by
  obtain ⟨e, eq⟩ := takeRow_run t db ctx now b
  rw [eq]
  exact late

theorem TimedOut.resignal (late : t.TimedOut) : t.resignal.TimedOut := by
  obtain ⟨again, signals, keeps, eq⟩ := resignal_shape (t := t)
  rw [eq]
  intro c' cancelled
  obtain ⟨c, canc, rfl⟩ := Option.map_eq_some_iff.mp cancelled
  obtain ⟨e, running, pos, overtime⟩ := late c canc
  refine ⟨again e, by simp [running], pos, ?_⟩
  rw [(keeps c).1, (keeps e).1]
  exact overtime

theorem TimedOut.endExec (late : t.TimedOut) (b : Backend) : (t.endExec.run b).1.TimedOut := by
  rw [endExec_run]
  intro c cancelled
  obtain ⟨e, running, pos, overtime⟩ := late c cancelled
  exact ⟨{ e with waiting := none }, by simp [running], pos, overtime⟩

theorem TimedOut.endCanc (late : t.TimedOut) (b : Backend) : (t.endCanc.run b).1.TimedOut := by
  rw [endCanc_run]
  intro c' cancelled
  obtain ⟨c, canc, rfl⟩ := Option.map_eq_some_iff.mp cancelled
  exact late c canc

theorem TimedOut.cancel (late : t.TimedOut) (overdue : t.status now = .timeout) (b : Backend) :
    ((t.cancel now).run b).1.TimedOut := by
  rcases cancel_shape now b with same | ⟨e, r, w, running, -, -, eq⟩
  · rwa [same]
  · obtain ⟨e', running', -, pos, overtime⟩ := overran_of_timeout overdue
    rw [running] at running'
    cases running'
    rw [eq]
    intro c cancelled
    cases cancelled
    exact ⟨e.interrupt Fault.jobTimeout, rfl, pos, overtime⟩

end Thread

namespace Threads

variable {ts ts' : Threads} {b : Backend} {now : Instant}

def Owned (ts : Threads) : Prop := ∀ i, (ts.get i).execAlive = true → i ∈ ts.live

/-- Every started cancellation began after its job's own timeout. -/
def TimedOut (ts : Threads) : Prop := ∀ i, (ts.get i).TimedOut

/-- What a pass of a worker's loop does to its threads: a tick, and rows prepared, checked and
started. -/
inductive PassOp : Threads → Threads → Prop
  | tick (ts : Threads) (now : Instant) (b : Backend) : PassOp ts ((ts.tick now).run b).1
  | prepare (ts : Threads) (row : QueueRow) (make : Definition JobType → QueueRow → Except Fault JobRun)
      {i : Nat} {ts' : Threads} : ts.prepare row make = .ok (i, ts') → PassOp ts ts'
  | takeRow (ts : Threads) (i : Nat) (db : Option Nat) (ctx : Ctx) (now : Instant) (b : Backend) :
      PassOp ts ((ts.takeRow i db ctx now).run b).1.2
  | start (ts : Threads) (i : Nat) (db : Option Nat) (now : Instant) (b : Backend) :
      PassOp ts ((ts.start i db now).run b).1

theorem PassOp.step (op : PassOp ts ts') : Step ts ts' := by
  cases op with
  | tick now b => exact .tick ts now b
  | prepare row make prepared => exact .prepare ts row make prepared
  | takeRow i db ctx now b => exact .takeRow ts i db ctx now b
  | start i db now b => exact .start ts i db now b

/-! ## Properties of every thread -/

/-- Replacing one thread by one with a property keeps it of every thread. -/
theorem forall_get_set {P : Nat → Thread → Prop} (all : ∀ j, P j (ts.get j)) {i : Nat} {t : Thread} (p : P i t) :
    ∀ j, P j (({ ts with all := ts.all.set i t } : Threads).get j) := by
  intro j
  by_cases same : i = j
  · subst same
    by_cases inRange : i < ts.all.length
    · rw [get_set_self inRange]
      exact p
    · rw [List.set_eq_of_length_le (Nat.le_of_not_lt inRange)]
      exact all i
  · rw [get_set_ne same]
    exact all j

theorem forall_get_append {P : Nat → Thread → Prop} (all : ∀ j, P j (ts.get j)) {t : Thread} (added : ∀ j, P j t)
    (unused : ∀ j, P j default) : ∀ j, P j (({ ts with all := ts.all ++ [t] } : Threads).get j) := by
  intro j
  by_cases inRange : j < ts.all.length
  · rw [get_append_of_lt inRange]
    exact all j
  · rcases get_append_of_le (t := t) (Nat.le_of_not_lt inRange) with last | outside
    · rw [last]
      exact added j
    · rw [outside]
      exact unused j

theorem Moves.forall_get {P : Thread → Prop} (kept : ∀ t t' : Thread, Thread.Step t t' → P t → P t')
    (moves : Moves ts ts') (all : ∀ i, P (ts.get i)) : ∀ i, P (ts'.get i) := by
  have reaches : ∀ {t t' : Thread}, Thread.Reaches t t' → P t → P t' := by
    intro t t' reaches p
    induction reaches with
    | refl => exact p
    | tail _ step ih => exact kept _ _ step ih
  exact fun i => reaches (moves.2 i) (all i)

theorem Step.forall_get {P : Thread → Prop} (fresh : ∀ t : Thread, t.Fresh → P t)
    (kept : ∀ t t' : Thread, Thread.Step t t' → P t → P t') (op : Step ts ts') (all : ∀ i, P (ts.get i)) :
    ∀ i, P (ts'.get i) := by
  rcases op.moves_or_prepares with moves | ⟨t, isFresh, rfl⟩
  · exact moves.forall_get kept all
  · exact forall_get_append (P := fun _ t => P t) all (fun _ => fresh t isFresh) fun _ => fresh _ Thread.fresh_default

theorem Moves.armed (moves : Moves ts ts') (armed : ∀ i, (ts.get i).Armed) : ∀ i, (ts'.get i).Armed :=
  moves.forall_get (fun _ _ step a => step.armed a) armed

theorem Step.armed (op : Step ts ts') (armed : ∀ i, (ts.get i).Armed) : ∀ i, (ts'.get i).Armed :=
  op.forall_get (fun _ fresh => fresh.armed) (fun _ _ step a => step.armed a) armed

theorem takeRow_threads (i : Nat) (db : Option Nat) (ctx : Ctx) (now : Instant) (b : Backend) :
    ((ts.takeRow i db ctx now).run b).1.2 = { ts with all := ts.all.set i (((ts.get i).takeRow db ctx now).run b).1.2 } :=
  rfl

theorem start_threads (i : Nat) (db : Option Nat) (now : Instant) (b : Backend) :
    ((ts.start i db now).run b).1 =
      { ts with all := ts.all.set i (((ts.get i).launch db now).run b).1, live := ts.live ++ [i] } :=
  rfl

/-! ## Running threads are owned -/

theorem Owned.set (owned : ts.Owned) {i : Nat} {t : Thread}
    (kept : t.execAlive = true → (ts.get i).execAlive = true) : ({ ts with all := ts.all.set i t } : Threads).Owned :=
  forall_get_set (P := fun j t => t.execAlive = true → j ∈ ts.live) owned fun alive => owned i (kept alive)

theorem erasable_of_alive {t : Thread} (alive : t.execAlive = true) : t.erasable = false := by
  obtain ⟨e, running, alive⟩ := Thread.execAlive_iff.mp alive
  simp [Thread.erasable, running, alive]

theorem Event.owned {x y : Threads × Backend} (event : Event x y) (owned : x.1.Owned) : y.1.Owned := by
  cases event with
  | cancel ts b i now _ => exact owned.set fun alive => Thread.execAlive_cancel.symm.trans alive
  | resignal ts b i => exact owned.set fun alive => Thread.execAlive_resignal.symm.trans alive
  | endExec ts b i running _ =>
      show ((ts.updateM i Thread.endExec).run b).1.Owned
      rw [updateM_run]
      refine owned.set fun alive => ?_
      rw [Thread.endExec_run, running] at alive
      cases alive
  | endCanc ts b i _ _ =>
      show ((ts.updateM i Thread.endCanc).run b).1.Owned
      rw [updateM_run]
      exact owned.set fun alive => by rwa [Thread.endCanc_run] at alive
  | prune ts b =>
      intro i alive
      have alive : (ts.get i).execAlive = true := alive
      exact List.mem_filter.mpr ⟨owned i alive, by simp [erasable_of_alive alive]⟩

theorem Events.owned {x y : Threads × Backend} (events : Events x y) (owned : x.1.Owned) : y.1.Owned := by
  induction events with
  | refl => exact owned
  | tail _ event ih => exact event.owned ih

theorem Step.owned (op : Step ts ts') (owned : ts.Owned) : ts'.Owned := by
  cases op with
  | prepare row make prepared =>
      obtain ⟨t, fresh, -, -, rfl⟩ := prepare_fresh prepared
      exact forall_get_append (P := fun j t => t.execAlive = true → j ∈ ts.live) owned
        (fun _ alive => by simp [Thread.execAlive, fresh.idle] at alive) fun _ alive => nomatch alive
  | takeRow i db ctx now b =>
      rw [takeRow_threads]
      refine owned.set fun alive => ?_
      obtain ⟨e, eq⟩ := Thread.takeRow_run (ts.get i) db ctx now b
      rwa [eq] at alive
  | start i db now b =>
      rw [start_threads]
      intro j alive
      show j ∈ ts.live ++ [i]
      by_cases same : i = j
      · exact List.mem_append_right _ (List.mem_singleton.mpr same.symm)
      · rw [show ({ ts with all := ts.all.set i (((ts.get i).launch db now).run b).1, live := ts.live ++ [i] } : Threads).get j =
          ({ ts with all := ts.all.set i (((ts.get i).launch db now).run b).1 } : Threads).get j from rfl,
          get_set_ne same] at alive
        exact List.mem_append_left _ (owned j alive)
  | cancel i now b => exact (events_cancel i now).owned owned
  | resignal i => exact owned.set fun alive => Thread.execAlive_resignal.symm.trans alive
  | tick now b => exact (events_tick now).owned owned
  | cancelAll now b => exact (events_cancelAll now).owned owned
  | terminate now timeout b => exact (events_terminate now timeout).owned owned
  | settle b => exact (events_settle (b := b)).owned owned
  | release i cancelTask b => exact (events_release i cancelTask).owned owned
  | endExec i b running alive => exact (Event.endExec _ b i running alive).owned owned
  | endCanc i b cancelled alive => exact (Event.endCanc _ b i cancelled alive).owned owned

/-! ## Cancelling one job -/

theorem settled_sweep_one {i : Nat} (armed : (ts.get i).Armed)
    (live : (ts.get i).execAlive = true ∨ (ts.get i).Settled) (now : Instant) (b : Backend) :
    (((sweep [.running, .timeout] false now ts [i]).run b).1.get i).Settled := by
  by_cases settled : (ts.get i).Settled
  · exact ((events_sweep [.running, .timeout] false now [i] ts b).moves.2 i).settled settled
  · obtain ⟨e, running, alive⟩ := Thread.execAlive_iff.mp (live.resolve_right settled)
    have noCancel : (ts.get i).canc = none := Option.not_isSome_iff_eq_none.mp fun c => settled (.inl c)
    have picked : ([ThreadStatus.running, .timeout].contains ((ts.get i).status now)) = true := by
      rcases @Thread.status_live _ now _ running noCancel alive with s | s <;> rw [s] <;> rfl
    have swept : (sweep [.running, .timeout] false now ts [i]).run b = (ts.updateM i fun t => t.cancel now).run b := by
      simp only [sweep, picked, ↓reduceIte, BackendM.run_bind, BackendM.run_pure]
      rfl
    obtain ⟨r, w, eq⟩ := Thread.cancel_of_armed now b running noCancel (armed e running alive noCancel)
    rw [swept, updateM_run, get_set_self (inRange_of_running running), eq]
    exact .inl rfl

/-! ## What a pass does to the timeouts of cancellations -/

theorem TimedOut.updateM (late : ts.TimedOut) {i : Nat} {f : Thread → BackendM Thread}
    (keep : (ts.get i).TimedOut → ((f (ts.get i)).run b).1.TimedOut) : ((ts.updateM i f).run b).1.TimedOut := by
  rw [updateM_run]
  exact forall_get_set (P := fun _ t => t.TimedOut) late (keep (late i))

theorem sweep_timedOut (resignal : Bool) (now : Instant) (indices : List Nat) :
    ∀ (ts : Threads) (b : Backend), ts.TimedOut → ((sweep [.timeout] resignal now ts indices).run b).1.TimedOut := by
  induction indices with
  | nil => intro ts b late; exact late
  | cons i rest ih =>
      intro ts b late
      simp only [Threads.sweep]
      split
      · rename_i picked
        have overdue : (ts.get i).status now = .timeout := by simpa using picked
        rw [BackendM.run_bind]
        exact ih _ _ (late.updateM fun mine => mine.cancel overdue b)
      · split
        · rw [BackendM.run_bind, BackendM.run_pure]
          exact ih _ _ (forall_get_set (P := fun _ t => t.TimedOut) late (late i).resignal)
        · rw [BackendM.run_bind, BackendM.run_pure]
          exact ih _ _ late

theorem PassOp.timedOut (op : PassOp ts ts') (late : ts.TimedOut) : ts'.TimedOut := by
  cases op with
  | tick now b => exact sweep_timedOut true now _ ts.prune b late
  | prepare row make prepared =>
      obtain ⟨t, fresh, -, -, rfl⟩ := prepare_fresh prepared
      exact forall_get_append (P := fun _ t => t.TimedOut) late (fun _ => fresh.timedOut)
        fun _ => Thread.fresh_default.timedOut
  | takeRow i db ctx now b =>
      rw [takeRow_threads]
      exact forall_get_set (P := fun _ t => t.TimedOut) late ((late i).takeRow db ctx now b)
  | start i db now b =>
      rw [start_threads]
      exact forall_get_set (P := fun _ t => t.TimedOut) late ((late i).launch db now b)

theorem TimedOut.endExec (late : ts.TimedOut) (i : Nat) (b : Backend) : ((ts.updateM i Thread.endExec).run b).1.TimedOut :=
  late.updateM fun mine => mine.endExec b

theorem TimedOut.endCanc (late : ts.TimedOut) (i : Nat) (b : Backend) : ((ts.updateM i Thread.endCanc).run b).1.TimedOut :=
  late.updateM fun mine => mine.endCanc b

/-! ## Runs of passes -/

/-- The collection `ts'` keeps every thread of `ts`, each moved on by its events. -/
def Follows (ts ts' : Threads) : Prop :=
  ts.all.length ≤ ts'.all.length ∧ ∀ i < ts.all.length, Thread.Reaches (ts.get i) (ts'.get i)

theorem Follows.refl (ts : Threads) : Follows ts ts := ⟨Nat.le_refl _, fun _ _ => .refl⟩

theorem Moves.follows (moves : Moves ts ts') : Follows ts ts' := ⟨moves.1.ge, fun i _ => moves.2 i⟩

theorem Step.follows (op : Step ts ts') : Follows ts ts' := Step.run_moves (.single op)

theorem PassOps.follows (ops : Relation.ReflTransGen PassOp ts ts') : Follows ts ts' :=
  Step.run_moves (ops.lift id fun _ _ op => op.step)

/-- What every event keeps of a thread, and a thread never prepared lacks, a following
collection keeps of each of its threads. -/
theorem Follows.lift {P : Thread → Prop} (follows : Follows ts ts')
    (keep : ∀ {t t'}, Thread.Reaches t t' → P t → P t') (unused : ¬ P default) {i : Nat}
    (holds : P (ts.get i)) : P (ts'.get i) := by
  by_cases inside : i < ts.all.length
  · exact keep (follows.2 i inside) holds
  · rw [get_of_length_le (Nat.le_of_not_lt inside)] at holds
    exact absurd holds unused

theorem PassOps.armed (ops : Relation.ReflTransGen PassOp ts ts') (armed : ∀ i, (ts.get i).Armed) :
    ∀ i, (ts'.get i).Armed := by
  induction ops with
  | refl => exact armed
  | tail _ op ih => exact op.step.armed ih

theorem PassOps.owned (ops : Relation.ReflTransGen PassOp ts ts') (owned : ts.Owned) : ts'.Owned := by
  induction ops with
  | refl => exact owned
  | tail _ op ih => exact op.step.owned ih

theorem PassOps.timedOut (ops : Relation.ReflTransGen PassOp ts ts') (late : ts.TimedOut) : ts'.TimedOut := by
  induction ops with
  | refl => exact late
  | tail _ op ih => exact op.timedOut ih

/-! ## Terminating an empty collection -/

theorem passes_succ (timeout poll : Int) : ∃ n, passes timeout poll = n + 1 := by
  unfold passes
  split
  · exact ⟨0, rfl⟩
  · exact ⟨_, Nat.add_comm _ _⟩

theorem terminate_of_idle (idle : ts.live = []) (now : Instant) (timeout : Int) (b : Backend) :
    (ts.terminate now timeout).run b = ((none, ts), b) := by
  have pruned : ts.prune = ts := by
    obtain ⟨catalog, cancelTimeout, pollInterval, all, live⟩ := ts
    subst idle
    rfl
  obtain ⟨n, once⟩ := passes_succ timeout ts.pollInterval
  unfold terminate
  rw [once, terminateLoop, pruned, idle]
  simp only [sweep, BackendM.run_bind, BackendM.run_pure, count, idle, List.length_nil, beq_self_eq_true, ↓reduceIte]

end Threads

end Foreman

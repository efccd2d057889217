import Foreman.Proofs.Threads.Events

/-!
# Every operation of a thread collection is made of thread events

A collection keeps every thread it prepared, by number. Its operations (running, a tick,
cancelling everything, terminating, settling, releasing a task) change a thread only through
its own events: `Threads.Moves ts ts'` says each thread of `ts` reaches by events the thread
of `ts'` with its number, none added (`moves_tick`, `moves_terminate`, ...). Preparing a row
adds a thread that has not run (`prepare_fresh`). `Threads.Step` lists the operations, their
database work from any backend at any time and a task returning while alive; along any
sequence every thread is an interleaving of events from a fresh thread
(`Step.reaches_from_fresh`).
-/

namespace Foreman

set_option autoImplicit false

namespace Threads

variable {ts : Threads} {b : Backend} {now : Instant}

/-! ## Threads by number -/

theorem get_set_self {i : Nat} (inRange : i < ts.all.length) (t : Thread) :
    ({ ts with all := ts.all.set i t } : Threads).get i = t := by
  simp [Threads.get, List.getD_eq_getElem?_getD, inRange]

theorem get_set_ne {i j : Nat} (other : i ≠ j) (t : Thread) :
    ({ ts with all := ts.all.set i t } : Threads).get j = ts.get j := by
  simp [Threads.get, List.getD_eq_getElem?_getD, other]

theorem get_of_length_le {i : Nat} (outside : ts.all.length ≤ i) : ts.get i = default := by
  simp [Threads.get, List.getD_eq_getElem?_getD, outside]

theorem updateM_run (i : Nat) (f : Thread → BackendM Thread) :
    (ts.updateM i f).run b = ({ ts with all := ts.all.set i ((f (ts.get i)).run b).1 }, ((f (ts.get i)).run b).2) :=
  rfl

theorem updateM_bind {i : Nat} (inRange : i < ts.all.length) (f g : Thread → BackendM Thread) :
    (ts.updateM i fun t => f t >>= g).run b =
      (((ts.updateM i f).run b).1.updateM i g).run ((ts.updateM i f).run b).2 := by
  simp only [updateM_run, BackendM.run_bind, get_set_self inRange, List.set_set]

theorem updateM_of_run_eq {i : Nat} {f : Thread → BackendM Thread} (same : (f (ts.get i)).run b = (ts.get i, b)) :
    (ts.updateM i f).run b = (ts, b) := by
  rw [updateM_run, same]
  by_cases inRange : i < ts.all.length
  · simp [Threads.get, List.getD_eq_getElem?_getD, inRange]
  · simp [List.set_eq_of_length_le (Nat.le_of_not_lt inRange)]

/-! ## Events of a collection -/

/-- One event of a collection with its backend: a thread is cancelled or signalled again, a
live task of a thread returns, or the threads whose tasks all returned are forgotten. -/
inductive Event : Threads × Backend → Threads × Backend → Prop
  | cancel (ts : Threads) (b : Backend) (i : Nat) (now : Instant) :
      i < ts.all.length → Event (ts, b) ((ts.updateM i fun t => t.cancel now).run b)
  | resignal (ts : Threads) (b : Backend) (i : Nat) : Event (ts, b) (ts.update i Thread.resignal, b)
  | endExec (ts : Threads) (b : Backend) (i : Nat) {e : Task} :
      (ts.get i).exec = some e → e.alive = true → Event (ts, b) ((ts.updateM i Thread.endExec).run b)
  | endCanc (ts : Threads) (b : Backend) (i : Nat) {c : Task} :
      (ts.get i).canc = some c → c.alive = true → Event (ts, b) ((ts.updateM i Thread.endCanc).run b)
  | prune (ts : Threads) (b : Backend) : Event (ts, b) (ts.prune, b)

abbrev Events : Threads × Backend → Threads × Backend → Prop := Relation.ReflTransGen Event

theorem events_cancel (i : Nat) (now : Instant) : Events (ts, b) ((ts.updateM i fun t => t.cancel now).run b) := by
  by_cases inRange : i < ts.all.length
  · exact .single (.cancel ts b i now inRange)
  · have idle : (ts.get i).exec = none := by
      rw [get_of_length_le (Nat.le_of_not_lt inRange)]
      rfl
    rw [updateM_of_run_eq (Thread.cancel_of_unarmed (.inl idle))]

/-- A part of a thread's work that is an event when a test holds and nothing otherwise. -/
theorem events_updateM_ite {i : Nat} (test : Thread → Bool) (f : Thread → BackendM Thread)
    (event : test (ts.get i) = true → Event (ts, b) ((ts.updateM i f).run b)) :
    Events (ts, b) ((ts.updateM i fun t => if test t then f t else pure t).run b) := by
  by_cases passes : test (ts.get i) = true
  · have same : (ts.updateM i fun t => if test t then f t else pure t).run b = (ts.updateM i f).run b := by
      simp only [updateM_run, passes, ↓reduceIte]
    rw [same]
    exact .single (event passes)
  · rw [updateM_of_run_eq (by rw [if_neg passes, BackendM.run_pure])]

theorem events_settle_thread (i : Nat) : Events (ts, b) ((ts.updateM i Thread.settle).run b) := by
  by_cases inRange : i < ts.all.length
  · -- the execution returns first, then the cancellation
    rw [Thread.settle_eq, updateM_bind inRange]
    refine .trans (events_updateM_ite (i := i) (fun t => (t.exec.map Task.returnsNow).getD false) Thread.endExec
      fun returns => ?_) ?_
    · obtain ⟨e, exec, alive⟩ := Thread.live_of_returnsNow returns
      exact .endExec ts b i exec alive
    · refine events_updateM_ite _ _ fun returns => ?_
      obtain ⟨c, canc, alive⟩ := Thread.live_of_returnsNow returns
      exact .endCanc _ _ i canc alive
  · rw [updateM_of_run_eq ?_]
    rw [get_of_length_le (Nat.le_of_not_lt inRange)]
    rfl

theorem events_release_thread (i : Nat) (cancelTask : Bool) :
    Events (ts, b) ((ts.updateM i fun t => t.release cancelTask).run b) := by
  cases cancelTask
  · refine events_updateM_ite _ Thread.endExec fun waits => ?_
    obtain ⟨e, exec, alive⟩ := Thread.live_of_waitsForRelease waits
    exact .endExec ts b i exec alive
  · refine events_updateM_ite _ Thread.endCanc fun waits => ?_
    obtain ⟨c, canc, alive⟩ := Thread.live_of_waitsForRelease waits
    exact .endCanc ts b i canc alive

theorem events_sweep (cancelling : List ThreadStatus) (resignal : Bool) (now : Instant) (indices : List Nat) :
    ∀ (ts : Threads) (b : Backend), Events (ts, b) ((Threads.sweep cancelling resignal now ts indices).run b) := by
  induction indices with
  | nil => intro ts b; rfl
  | cons i rest ih =>
      intro ts b
      simp only [Threads.sweep]
      split
      · rw [BackendM.run_bind]
        exact (events_cancel i now).trans (ih _ _)
      · split
        · rw [BackendM.run_bind, BackendM.run_pure]
          exact .head (.resignal ts b i) (ih _ _)
        · rw [BackendM.run_bind, BackendM.run_pure]
          exact ih _ _

theorem events_tick (now : Instant) : Events (ts, b) ((ts.tick now).run b) :=
  .head (.prune ts b) (events_sweep _ _ _ _ _ _)

theorem events_cancelAll (now : Instant) : Events (ts, b) ((ts.cancelAll now).run b) :=
  events_sweep _ _ _ _ _ _

theorem events_settle : Events (ts, b) (ts.settle.run b) := by
  unfold Threads.settle
  generalize List.range ts.all.length = indices
  induction indices generalizing ts b with
  | nil => rw [List.foldlM_nil, BackendM.run_pure]
  | cons i rest ih =>
      rw [List.foldlM_cons, BackendM.run_bind]
      exact (events_settle_thread i).trans ih

theorem events_release (i : Nat) (cancelTask : Bool) : Events (ts, b) ((ts.release i cancelTask).run b) := by
  unfold Threads.release
  rw [BackendM.run_bind]
  exact (events_release_thread i cancelTask).trans events_settle

theorem events_terminateLoop (now : Instant) (n : Nat) : ∀ (ts : Threads) (b : Backend),
    Events (ts, b) (((terminateLoop now n ts).run b).1.2, ((terminateLoop now n ts).run b).2) := by
  induction n with
  | zero => intro ts b; rfl
  | succ n ih =>
      intro ts b
      simp only [terminateLoop]
      rw [BackendM.run_bind]
      -- each pass forgets, sweeps, and unless no thread is left lets the tasks return
      have swept := Relation.ReflTransGen.head (Event.prune ts b) (events_sweep [.running, .timeout] true now
        ts.prune.live ts.prune b)
      split
      · rw [BackendM.run_pure]
        exact swept
      · rw [BackendM.run_bind]
        exact swept.trans (events_settle.trans (ih _ _))

theorem events_terminate (now : Instant) (timeout : Int) :
    Events (ts, b) (((ts.terminate now timeout).run b).1.2, ((ts.terminate now timeout).run b).2) :=
  events_terminateLoop now _ ts b

/-! ## Threads move by their events -/

/-- Each thread reaches, by its own events, the thread with its number in `ts'`, and no
thread is added. -/
def Moves (ts ts' : Threads) : Prop :=
  ts'.all.length = ts.all.length ∧ ∀ i, Thread.Reaches (ts.get i) (ts'.get i)

theorem Moves.refl (ts : Threads) : Moves ts ts := ⟨rfl, fun _ => .refl⟩

theorem Moves.trans {ts₁ ts₂ ts₃ : Threads} (first : Moves ts₁ ts₂) (second : Moves ts₂ ts₃) : Moves ts₁ ts₃ :=
  ⟨second.1.trans first.1, fun i => (first.2 i).trans (second.2 i)⟩

theorem Moves.with_live (l : List Nat) : Moves ts { ts with live := l } := ⟨rfl, fun _ => .refl⟩

theorem moves_set {i : Nat} {t : Thread} (reaches : Thread.Reaches (ts.get i) t) :
    Moves ts { ts with all := ts.all.set i t } := by
  refine ⟨List.length_set .., fun j => ?_⟩
  by_cases same : i = j
  · subst same
    by_cases inRange : i < ts.all.length
    · rw [get_set_self inRange]
      exact reaches
    · rw [List.set_eq_of_length_le (Nat.le_of_not_lt inRange)]
  · rw [get_set_ne same]

theorem moves_updateM {i : Nat} {f : Thread → BackendM Thread} (each : ∀ t b, Thread.Reaches t ((f t).run b).1) :
    Moves ts ((ts.updateM i f).run b).1 := by
  rw [updateM_run]
  exact moves_set (each _ _)

theorem Event.moves {x y : Threads × Backend} (event : Event x y) : Moves x.1 y.1 := by
  cases event with
  | cancel ts b i now => exact moves_updateM fun t b => .single (.cancel t now b)
  | resignal ts b i => exact moves_set (.single (.resignal _))
  | endExec ts b i exec alive =>
      rw [updateM_run]
      exact moves_set (.single (.endExec _ b exec alive))
  | endCanc ts b i canc alive =>
      rw [updateM_run]
      exact moves_set (.single (.endCanc _ b canc alive))
  | prune ts b => exact Moves.with_live _

theorem Events.moves {x y : Threads × Backend} (events : Events x y) : Moves x.1 y.1 := by
  induction events with
  | refl => exact Moves.refl _
  | tail _ event ih => exact ih.trans event.moves

theorem moves_start (i : Nat) (db : Option Nat) (now : Instant) : Moves ts ((ts.start i db now).run b).1 := by
  rw [Threads.start, BackendM.run_bind, BackendM.run_pure]
  exact (moves_updateM fun t b => .single (.launch t db now b)).trans (Moves.with_live _)

theorem moves_takeRow (i : Nat) (db : Option Nat) (ctx : Ctx) (now : Instant) :
    Moves ts ((ts.takeRow i db ctx now).run b).1.2 := by
  simp only [Threads.takeRow, BackendM.run_bind, BackendM.run_pure]
  exact moves_set (.single (.takeRow _ db ctx now b))

/-! ## Preparing a row -/

theorem prepare_fresh {row : QueueRow} {make : Definition JobType → QueueRow → Except Fault JobRun} {i : Nat}
    {ts' : Threads} (prepared : ts.prepare row make = .ok (i, ts')) :
    ∃ t : Thread, t.Fresh ∧ t.row = row ∧ i = ts.all.length ∧ ts' = { ts with all := ts.all ++ [t] } := by
  unfold Threads.prepare at prepared
  split at prepared
  · cases prepared
  · split at prepared
    · cases prepared
    · cases prepared
      exact ⟨_, ⟨rfl, rfl, rfl, rfl, rfl⟩, rfl, rfl, rfl⟩

theorem get_append_of_lt {t : Thread} {i : Nat} (inRange : i < ts.all.length) :
    ({ ts with all := ts.all ++ [t] } : Threads).get i = ts.get i := by
  simp [Threads.get, List.getD_eq_getElem?_getD, List.getElem?_append_left inRange]

theorem get_append_of_le {t : Thread} {i : Nat} (outside : ts.all.length ≤ i) :
    ({ ts with all := ts.all ++ [t] } : Threads).get i = t ∨
      ({ ts with all := ts.all ++ [t] } : Threads).get i = default := by
  by_cases last : i = ts.all.length
  · subst last
    exact .inl (by simp [Threads.get, List.getD_eq_getElem?_getD])
  · refine .inr (get_of_length_le ?_)
    simp only [List.length_append, List.length_singleton]
    omega

end Threads

/-- A thread that was never prepared reads as the default thread, which has not run. -/
theorem Thread.fresh_default : (default : Thread).Fresh := ⟨rfl, rfl, rfl, rfl, rfl⟩

namespace Threads

variable {ts : Threads}

/-! ## Operations of a collection -/

/-- One operation of a thread collection: what the worker calls, and a task of one of its
threads returning while it is alive. Database work runs from any backend and at any time. -/
inductive Step : Threads → Threads → Prop
  | prepare (ts : Threads) (row : QueueRow) (make : Definition JobType → QueueRow → Except Fault JobRun)
      {i : Nat} {ts' : Threads} : ts.prepare row make = .ok (i, ts') → Step ts ts'
  | takeRow (ts : Threads) (i : Nat) (db : Option Nat) (ctx : Ctx) (now : Instant) (b : Backend) :
      Step ts ((ts.takeRow i db ctx now).run b).1.2
  | start (ts : Threads) (i : Nat) (db : Option Nat) (now : Instant) (b : Backend) :
      Step ts ((ts.start i db now).run b).1
  | cancel (ts : Threads) (i : Nat) (now : Instant) (b : Backend) :
      Step ts ((ts.updateM i fun t => t.cancel now).run b).1
  | resignal (ts : Threads) (i : Nat) : Step ts (ts.update i Thread.resignal)
  | tick (ts : Threads) (now : Instant) (b : Backend) : Step ts ((ts.tick now).run b).1
  | cancelAll (ts : Threads) (now : Instant) (b : Backend) : Step ts ((ts.cancelAll now).run b).1
  | terminate (ts : Threads) (now : Instant) (timeout : Int) (b : Backend) :
      Step ts ((ts.terminate now timeout).run b).1.2
  | settle (ts : Threads) (b : Backend) : Step ts (ts.settle.run b).1
  | release (ts : Threads) (i : Nat) (cancelTask : Bool) (b : Backend) : Step ts ((ts.release i cancelTask).run b).1
  | endExec (ts : Threads) (i : Nat) (b : Backend) {e : Task} :
      (ts.get i).exec = some e → e.alive = true → Step ts ((ts.updateM i Thread.endExec).run b).1
  | endCanc (ts : Threads) (i : Nat) (b : Backend) {c : Task} :
      (ts.get i).canc = some c → c.alive = true → Step ts ((ts.updateM i Thread.endCanc).run b).1

/-- An operation other than preparing a row moves every thread by its events; preparing a
row adds one thread that has not run and keeps the others. -/
theorem Step.moves_or_prepares {ts' : Threads} (step : Step ts ts') :
    Moves ts ts' ∨ ∃ t : Thread, t.Fresh ∧ ts' = { ts with all := ts.all ++ [t] } := by
  cases step with
  | prepare row make prepared =>
      obtain ⟨t, fresh, -, -, rfl⟩ := prepare_fresh prepared
      exact .inr ⟨t, fresh, rfl⟩
  | takeRow i db ctx now => exact .inl (moves_takeRow i db ctx now)
  | start i db now => exact .inl (moves_start i db now)
  | cancel i now b => exact .inl (events_cancel i now).moves
  | resignal i => exact .inl (moves_set (.single (.resignal _)))
  | tick now b => exact .inl (events_tick now).moves
  | cancelAll now b => exact .inl (events_cancelAll now).moves
  | terminate now timeout b => exact .inl (events_terminate now timeout).moves
  | settle b => exact .inl (events_settle (b := b)).moves
  | release i cancelTask b => exact .inl (events_release i cancelTask).moves
  | endExec i b exec alive => exact .inl (Event.endExec _ b i exec alive).moves
  | endCanc i b canc alive => exact .inl (Event.endCanc _ b i canc alive).moves

/-! ## Runs of operations -/

theorem Step.run_moves {ts' : Threads} (run : Relation.ReflTransGen Step ts ts') :
    ts.all.length ≤ ts'.all.length ∧ ∀ i < ts.all.length, Thread.Reaches (ts.get i) (ts'.get i) := by
  induction run with
  | refl => exact ⟨Nat.le_refl _, fun _ _ => .refl⟩
  | tail _ step ih =>
      obtain ⟨grows, reaches⟩ := ih
      rcases step.moves_or_prepares with moves | ⟨t, -, rfl⟩
      · exact ⟨moves.1 ▸ grows, fun i inRange => (reaches i inRange).trans (moves.2 i)⟩
      · refine ⟨by simp only [List.length_append, List.length_singleton]; omega, fun i inRange => ?_⟩
        rw [get_append_of_lt (by omega)]
        exact reaches i inRange

theorem new_fresh (cat : Catalog JobType) (cancelTimeout pollInterval : Int) (i : Nat) :
    ((Threads.new cat cancelTimeout pollInterval).get i).Fresh := by
  rw [get_of_length_le (by simp [Threads.new])]
  exact Thread.fresh_default

theorem Step.reaches_from_fresh {cat : Catalog JobType} {cancelTimeout pollInterval : Int}
    (run : Relation.ReflTransGen Step (Threads.new cat cancelTimeout pollInterval) ts) (i : Nat) :
    ∃ t₀ : Thread, t₀.Fresh ∧ Thread.Reaches t₀ (ts.get i) := by
  induction run generalizing i with
  | refl => exact ⟨_, new_fresh cat cancelTimeout pollInterval i, .refl⟩
  | @tail mid _ _ step ih =>
      rcases step.moves_or_prepares with moves | ⟨t, fresh, rfl⟩
      · obtain ⟨t₀, fresh, reaches⟩ := ih i
        exact ⟨t₀, fresh, reaches.trans (moves.2 i)⟩
      · by_cases inRange : i < mid.all.length
        · rw [get_append_of_lt inRange]
          exact ih i
        · rcases get_append_of_le (t := t) (Nat.le_of_not_lt inRange) with added | unused
          · rw [added]
            exact ⟨t, fresh, .refl⟩
          · rw [unused]
            exact ⟨default, Thread.fresh_default, .refl⟩

end Threads

end Foreman

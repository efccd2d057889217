import Mathlib.Logic.Function.Basic
import Mathlib.Logic.Relation
import Foreman.Proofs.Cleanup.Runs

/-!
# One sweeper at a time

The workers share one clean-up record: the duty holder's pid and the time the next sweep is
due. A duty starts a sweep on a tick only when the record names it and the due time has come.
`Duties` runs the duties of `n` workers over one record. The sweeps are exclusive and spaced
(`single_sweeper`), provided a re-election never moves the duty from a worker still sweeping
(else `two_sweeps_after_handover`) and the due time fits the record's signed 64-bit
nanoseconds (else `sweep_restarts_when_due_time_wraps`).
-/

namespace Foreman

set_option autoImplicit false

/-! ## The due time in the record -/

namespace CleanupInfo

/-- An instant the record keeps as it is: a signed 64-bit count of nanoseconds other than 0. -/
def Storable (t : Instant) : Prop := -(2 ^ 63) ≤ t.nanos ∧ t.nanos < 2 ^ 63 ∧ t.nanos ≠ 0

theorem time_setTime (i : CleanupInfo) {t : Instant} (storable : Storable t) : (i.setTime t).time = t := by
  obtain ⟨low, high, nonzero⟩ := storable
  have present : t.isZero = false := by
    simp only [Instant.isZero, Instant.zero, Instant.second, beq_eq_false_iff_ne]
    omega
  simp [time, setTime, present, Word.wrap_of_small _ low high, nonzero]

@[simp] theorem setTime_setTime (i : CleanupInfo) (t u : Instant) : (i.setTime t).setTime u = i.setTime u := rfl

@[simp] theorem setTime_pid (i : CleanupInfo) (t : Instant) : (i.setTime t).pid = i.pid := rfl

theorem setPid_setTime (i : CleanupInfo) (p : Int) (t : Instant) :
    (i.setPid p).setTime t = (i.setTime t).setPid p := rfl

end CleanupInfo

/-! ## What one operation of a duty does -/

namespace CleanupJob

/-- Whether the duty's sweep has ended and is not forgotten yet. -/
def ended (j : CleanupJob) : Bool :=
  match j.sweep with
  | some s => s.result.isSome
  | none => false

/-- Whether going from `j` to `r` ended a sweep: one that ran, or one started on the way. -/
def endsSweep (j r : CleanupJob) : Bool := (j.running || j.sweep.isNone) && r.ended

theorem not_ended_of_running {j : CleanupJob} (running : j.running = true) : j.ended = false := by
  unfold CleanupJob.running at running
  unfold ended
  split at running <;> simp_all

theorem endsSweep_self (j : CleanupJob) : j.endsSweep j = false := by
  unfold endsSweep
  cases sweep : j.sweep with
  | none => simp [ended, sweep]
  | some s => cases result : s.result <;> simp [running, ended, sweep, result]

/-- What running a sweep from `j` at `now` leaves: the same duty, with its sweep waiting and the
record as it was, or with its sweep ended and the due time moved to the next activation. -/
structure Swept (j r : CleanupJob) (now : Instant) : Prop where
  pid : r.pid = j.pid
  schedule : r.schedule = j.schedule
  outcome : r.running = true ∧ r.info = j.info ∨ r.ended = true ∧ r.info = j.info.setTime (j.next now)

variable (now : Instant)

/-- A run of the sweep ends it with the next due time written, or leaves it waiting and the
record alone. -/
theorem Rests.swept {j : CleanupJob} {db : Option Nat} {b : Backend} {res : CleanupJob × Backend}
    (rests : Rests now j db b res) : Swept j res.1 now := by
  obtain ⟨calls, s', b', -, running, -, finished | waits⟩ := rests
  · rw [finished]
    exact ⟨rfl, rfl, .inr ⟨by simp [CleanupJob.finish, ended], rfl⟩⟩
  · rw [waits]
    exact ⟨rfl, rfl, .inl ⟨by simp [CleanupJob.running, running], rfl⟩⟩

/-- What one operation of the duty `j` at `now` can do, as the record sees it: it keeps the
worker, its schedule and the holder named; a sweep runs after it only if one ran before or the
duty is the worker's own; a running sweep runs on or ends, ending writes the next due time;
with no sweep before, after or ended the record is left alone; and a sweep starts only once
due. -/
structure Moves (j r : CleanupJob) (now : Instant) : Prop where
  pid : r.pid = j.pid
  schedule : r.schedule = j.schedule
  holder : r.info.pid = j.info.pid
  starts : r.running = true → j.running = true ∨ j.info.pid = j.pid
  runsOn : j.running = true → r.running = true ∨ r.ended = true
  ends : j.endsSweep r = true → r.info = j.info.setTime (j.next now)
  quiet : j.running = false → r.running = false → j.endsSweep r = false → r.info = j.info
  due : j.sweep = none → r.sweep.isSome = true → j.info.pid = j.pid ∧ j.info.time ≤ now

theorem Moves.refl (j : CleanupJob) : Moves j j now where
  pid := rfl
  schedule := rfl
  holder := rfl
  starts running := .inl running
  runsOn running := .inl running
  ends ends := by rw [endsSweep_self] at ends; cases ends
  quiet _ _ _ := rfl
  due idle some := by rw [idle] at some; cases some

theorem Swept.moves {j r : CleanupJob} (running : j.running = true) (swept : Swept j r now) : Moves j r now where
  pid := swept.pid
  schedule := swept.schedule
  holder := by rcases swept.outcome with ⟨_, same⟩ | ⟨_, moved⟩ <;> simp [*]
  starts _ := .inl running
  runsOn _ := by rcases swept.outcome with ⟨on, _⟩ | ⟨stopped, _⟩ <;> simp [*]
  ends ends := by
    rcases swept.outcome with ⟨on, _⟩ | ⟨_, moved⟩
    · simp [endsSweep, not_ended_of_running on] at ends
    · exact moved
  quiet idle := by rw [running] at idle; cases idle
  due idle := by simp [CleanupJob.running, idle] at running

theorem settle_moves (j : CleanupJob) (b : Backend) : Moves j ((j.settle now).run b).1 now := by
  unfold CleanupJob.settle
  split
  · rename_i s sweep
    split
    · rename_i w running _
      split
      · have on : j.running = true := by simp [CleanupJob.running, sweep, running]
        exact ((resume_rests now j s _ b running).swept now).moves now on
      · exact Moves.refl now j
    · exact Moves.refl now j
  · exact Moves.refl now j

theorem release_moves (j : CleanupJob) (name : Option String) (o : Outcome (Option Fault)) (b : Backend) :
    Moves j ((j.release name o now).run b).1 now := by
  unfold CleanupJob.release
  split
  · rename_i s sweep
    split
    · rename_i w d rest running _ _
      split
      · have on : j.running = true := by simp [CleanupJob.running, sweep, running]
        exact ((resume_rests now j s o b running).swept now).moves now on
      · exact Moves.refl now j
    · exact Moves.refl now j
  · exact Moves.refl now j

theorem tick_moves (j : CleanupJob) (db : Option Nat) (b : Backend) : Moves j ((j.tick db now).run b).1 now := by
  unfold CleanupJob.tick
  split
  · rename_i s sweep
    split
    · -- a running sweep moves the due time on and runs on
      rename_i running
      have result : s.result = none := Option.isNone_iff_eq_none.mp running
      have on : j.running = true := by simp [CleanupJob.running, sweep, running]
      refine ⟨rfl, rfl, rfl, fun _ => .inl on, fun _ => .inl on, fun ends => ?_, fun idle => ?_, fun idle => ?_⟩
      · simp [endsSweep, ended, sweep, result] at ends
      · rw [on] at idle; cases idle
      · rw [sweep] at idle; cases idle
    · -- an ended sweep is forgotten
      rename_i stopped
      have off : j.running = false := by simp [CleanupJob.running, sweep, stopped]
      refine ⟨rfl, rfl, rfl, fun on => ?_, fun on => ?_, fun ends => ?_, fun _ _ _ => rfl, fun idle => ?_⟩
      · simp [CleanupJob.running] at on
      · rw [off] at on; cases on
      · simp [endsSweep, ended] at ends
      · rw [sweep] at idle; cases idle
  · rename_i idle
    split
    · exact Moves.refl now j
    · rename_i come
      simp only [Bool.or_eq_true, bne_iff_ne, ne_eq, decide_eq_true_eq, not_or, not_not, not_lt] at come
      rw [BackendM.run_bind]
      have swept := (advance_rests now j.catalog.defs { j with info := j.info.setTime (j.next now) } { db := db }
        ((Backend.pin db).run b).2 rfl).swept now
      generalize (advance _ _ now _).run _ = res at swept
      have off : j.running = false := by simp [CleanupJob.running, idle]
      refine ⟨swept.pid, swept.schedule, ?_, fun _ => .inr come.1, fun on => ?_, fun ends => ?_, fun _ stays ends => ?_,
        fun _ _ => ⟨come.1, come.2⟩⟩
      · rcases swept.outcome with ⟨_, same⟩ | ⟨_, moved⟩ <;> simp [*]
      · rw [off] at on; cases on
      · rcases swept.outcome with ⟨_, same⟩ | ⟨_, moved⟩
        · simp [endsSweep, not_ended_of_running ‹_›] at ends
        · simp [moved, next]
      · rcases swept.outcome with ⟨on, _⟩ | ⟨stopped, _⟩
        · rw [stays] at on; cases on
        · simp [endsSweep, idle, stopped] at ends

end CleanupJob

/-! ## The duties of several workers over one record -/

/-- The clean-up duties of `n` workers over one shared record, and when the last sweep ended. -/
structure Duties (n : Nat) where
  jobs : Fin n → CleanupJob
  info : CleanupInfo
  lastEnd : Option Instant := none

namespace Duties

variable {n : Nat}

/-- Worker `i`'s duty as it sees the shared record. -/
def seen (ds : Duties n) (i : Fin n) : CleanupJob := { ds.jobs i with info := ds.info }

/-- Puts back worker `i`'s duty after an operation at `now`, with the record it left. -/
def put (ds : Duties n) (i : Fin n) (now : Instant) (r : CleanupJob) : Duties n :=
  { jobs := Function.update ds.jobs i r, info := r.info,
    lastEnd := if (ds.seen i).endsSweep r then some now else ds.lastEnd }

/-- One operation at `now` of worker `i`'s duty, over the shared record. -/
def onJob (ds : Duties n) (i : Fin n) (now : Instant) (op : CleanupJob → BackendM CleanupJob) (b : Backend) :
    Duties n :=
  ds.put i now ((op (ds.seen i)).run b).1

def Idle (ds : Duties n) : Prop := ∀ i, (ds.jobs i).running = false

@[simp] theorem seen_running (ds : Duties n) (i : Fin n) : (ds.seen i).running = (ds.jobs i).running := rfl

@[simp] theorem seen_sweep (ds : Duties n) (i : Fin n) : (ds.seen i).sweep = (ds.jobs i).sweep := rfl

@[simp] theorem seen_info (ds : Duties n) (i : Fin n) : (ds.seen i).info = ds.info := rfl

@[simp] theorem seen_pid (ds : Duties n) (i : Fin n) : (ds.seen i).pid = (ds.jobs i).pid := rfl

@[simp] theorem seen_schedule (ds : Duties n) (i : Fin n) : (ds.seen i).schedule = (ds.jobs i).schedule := rfl

@[simp] theorem put_self (ds : Duties n) (i : Fin n) (now : Instant) (r : CleanupJob) :
    (ds.put i now r).jobs i = r := by
  simp [put]

theorem put_ne (ds : Duties n) {i k : Fin n} (now : Instant) (r : CleanupJob) (other : k ≠ i) :
    (ds.put i now r).jobs k = ds.jobs k := by
  simp [put, other]

/-- What can happen to the duties: a worker ticks, a clean-up its sweep waits on returns or is
released, or the supervisor hands the duty to a pid, never away from a running sweep. -/
inductive Step : Duties n → Duties n → Prop
  | tick (ds : Duties n) (i : Fin n) (db : Option Nat) (now : Instant) (b : Backend) :
      Step ds (ds.onJob i now (fun j => j.tick db now) b)
  | settle (ds : Duties n) (i : Fin n) (now : Instant) (b : Backend) :
      Step ds (ds.onJob i now (fun j => j.settle now) b)
  | release (ds : Duties n) (i : Fin n) (name : Option String) (o : Outcome (Option Fault)) (now : Instant)
      (b : Backend) : Step ds (ds.onJob i now (fun j => j.release name o now) b)
  | elect (ds : Duties n) (p : Int) (keeps : ∀ i, (ds.jobs i).running = true → (ds.jobs i).pid = p) :
      Step ds { ds with info := ds.info.setPid p }

/-- The invariant: distinct workers on one schedule `σ`; a running sweep belongs to the holder
the record names; and with no sweep running, the record holds the due time the end of the
last sweep wrote. -/
structure Inv (ds : Duties n) (σ : Schedule) : Prop where
  pids : Function.Injective fun i => (ds.jobs i).pid
  schedule : ∀ i, (ds.jobs i).schedule = σ
  holder : ∀ i, (ds.jobs i).running = true → (ds.jobs i).pid = ds.info.pid
  due : ds.Idle → ∀ e, ds.lastEnd = some e → ds.info.setTime (σ.next (.fixed "UTC" 0) e) = ds.info

variable {σ : Schedule}

theorem Inv.exclusive {ds : Duties n} (inv : ds.Inv σ) {i k : Fin n} (first : (ds.jobs i).running = true)
    (second : (ds.jobs k).running = true) : i = k :=
  inv.pids ((inv.holder i first).trans (inv.holder k second).symm)

/-- A worker whose duty is named by the record and has no sweep running sees none running. -/
theorem Inv.idle_of_holder {ds : Duties n} (inv : ds.Inv σ) {i : Fin n} (off : (ds.jobs i).running = false)
    (named : ds.info.pid = (ds.jobs i).pid) : ds.Idle := by
  intro k
  cases on : (ds.jobs k).running
  · rfl
  · -- a running sweep is the holder's, and the holder is `i`
    have same : k = i := inv.pids ((inv.holder k on).trans named)
    rw [same, off] at on
    cases on

theorem Inv.put {ds : Duties n} (inv : ds.Inv σ) (i : Fin n) (now : Instant) {r : CleanupJob}
    (moves : (ds.seen i).Moves r now) : (ds.put i now r).Inv σ := by
  have jobs : ∀ k, (ds.put i now r).jobs k = r ∧ k = i ∨ (ds.put i now r).jobs k = ds.jobs k ∧ k ≠ i := by
    intro k
    by_cases same : k = i
    · exact .inl ⟨same ▸ put_self ds i now r, same⟩
    · exact .inr ⟨put_ne ds now r same, same⟩
  have pid : ∀ k, ((ds.put i now r).jobs k).pid = (ds.jobs k).pid := by
    intro k
    rcases jobs k with ⟨now', rfl⟩ | ⟨kept, _⟩
    · rw [now', moves.pid, seen_pid]
    · rw [kept]
  refine ⟨fun k l same => inv.pids (by simpa only [pid] using same), fun k => ?_, fun k on => ?_, fun idle e last => ?_⟩
  · rcases jobs k with ⟨now', rfl⟩ | ⟨kept, _⟩
    · rw [now', moves.schedule, seen_schedule, inv.schedule]
    · rw [kept, inv.schedule]
  · -- the holder stays named: a running sweep ran before or was started by the holder
    show _ = r.info.pid
    rw [pid, moves.holder, seen_info]
    rcases jobs k with ⟨now', rfl⟩ | ⟨kept, _⟩
    · rw [now'] at on
      rcases moves.starts on with before | named
      · exact inv.holder k before
      · exact named.symm
    · rw [kept] at on
      exact inv.holder k on
  · -- the record holds the due time the end of the last sweep wrote
    have off : r.running = false := by simpa using idle i
    show r.info.setTime _ = r.info
    by_cases ended : (ds.seen i).endsSweep r = true
    · -- this step ended a sweep, at `now`
      have at_now : e = now := by simp only [Duties.put, ended, ↓reduceIte, Option.some.injEq] at last; exact last.symm
      rw [moves.ends ended, at_now, seen_info, CleanupInfo.setTime_setTime]
      simp only [CleanupJob.next, seen_schedule, inv.schedule i]
    · have last' : ds.lastEnd = some e := by simpa [Duties.put, ended] using last
      have offBefore : (ds.jobs i).running = false := by
        cases on : (ds.jobs i).running
        · rfl
        · rcases moves.runsOn (by simpa using on) with still | stopped
          · rw [off] at still; cases still
          · exact absurd (by simp [CleanupJob.endsSweep, on, stopped]) ended
      have idleBefore : ds.Idle := fun k => by
        by_cases same : k = i
        · rw [same]; exact offBefore
        · simpa [put_ne ds now r same] using idle k
      rw [moves.quiet (by simpa using offBefore) off (by simpa using ended), seen_info]
      exact inv.due idleBefore e last'

theorem Step.inv {ds ds' : Duties n} (step : Step ds ds') (inv : ds.Inv σ) : ds'.Inv σ := by
  cases step with
  | tick i db now b => exact inv.put i now (CleanupJob.tick_moves now _ db b)
  | settle i now b => exact inv.put i now (CleanupJob.settle_moves now _ b)
  | release i name o now b => exact inv.put i now (CleanupJob.release_moves now _ name o b)
  | elect p keeps =>
      refine ⟨inv.pids, inv.schedule, keeps, fun idle e last => ?_⟩
      show (ds.info.setPid p).setTime _ = ds.info.setPid p
      rw [CleanupInfo.setPid_setTime, inv.due idle e last]

theorem Inv.reaches {ds ds' : Duties n} (inv : ds.Inv σ) (run : Relation.ReflTransGen Step ds ds') :
    ds'.Inv σ := by
  induction run with
  | refl => exact inv
  | tail _ step ih => exact step.inv ih

theorem inv_start {ds : Duties n} (pids : Function.Injective fun i => (ds.jobs i).pid)
    (schedule : ∀ i, (ds.jobs i).schedule = σ) (idle : ∀ i, (ds.jobs i).sweep = none) (fresh : ds.lastEnd = none) :
    ds.Inv σ where
  pids := pids
  schedule := schedule
  holder i on := by simp [CleanupJob.running, idle i] at on
  due _ e last := by rw [fresh] at last; cases last

/-- Workers with distinct pids on one schedule, none sweeping yet: whatever their ticks, the
clean-ups their sweeps wait on and the re-elections never taking the duty from a running
sweep, at most one sweep runs at a time, and a tick starts one no earlier than the next
activation after the last sweep's end, when that instant fits the record. -/
theorem single_sweeper {start ds : Duties n} (σ : Schedule)
    (pids : Function.Injective fun i => (start.jobs i).pid) (schedule : ∀ i, (start.jobs i).schedule = σ)
    (idle : ∀ i, (start.jobs i).sweep = none) (fresh : start.lastEnd = none)
    (run : Relation.ReflTransGen Step start ds) :
    (∀ i k, (ds.jobs i).running = true → (ds.jobs k).running = true → i = k) ∧
      ∀ (i : Fin n) (db : Option Nat) (t : Instant) (b : Backend) (e : Instant), (ds.jobs i).sweep = none →
        ((ds.onJob i t (fun j => j.tick db t) b).jobs i).sweep.isSome = true → ds.lastEnd = some e →
          CleanupInfo.Storable ((ds.jobs i).next e) → (ds.jobs i).next e ≤ t := by
  have inv := (inv_start pids schedule idle fresh).reaches run
  refine ⟨fun i k => inv.exclusive, fun i db t b e off started last storable => ?_⟩
  obtain ⟨named, come⟩ := (CleanupJob.tick_moves t (ds.seen i) db b).due (by simpa using off)
    (by simpa [onJob] using started)
  have stopped : (ds.jobs i).running = false := by
    unfold CleanupJob.running
    rw [off]
  have quiet := inv.idle_of_holder stopped (by simpa using named)
  have next : (ds.jobs i).next e = σ.next (.fixed "UTC" 0) e := by simp only [CleanupJob.next, inv.schedule i]
  rw [next] at storable ⊢
  calc σ.next (.fixed "UTC" 0) e = (ds.info.setTime (σ.next (.fixed "UTC" 0) e)).time :=
        (CleanupInfo.time_setTime _ storable).symm
    _ = ds.info.time := by rw [inv.due quiet e last]
    _ ≤ t := come

/-- Two workers, after the holder's first tick, do not both sweep. -/
theorem two_workers_after_a_tick :
    ¬ ((((⟨fun i => { catalog := ⟨[], []⟩, schedule := .every 1, pid := (i.val : Int) + 1 }, { pid := 1 }, none⟩ :
        Duties 2).onJob 0 .zero (fun j => j.tick none .zero) {}).jobs 0).running = true ∧
      (((⟨fun i => { catalog := ⟨[], []⟩, schedule := .every 1, pid := (i.val : Int) + 1 }, { pid := 1 }, none⟩ :
        Duties 2).onJob 0 .zero (fun j => j.tick none .zero) {}).jobs 1).running = true) :=
  fun ⟨first, second⟩ => absurd ((single_sweeper (.every 1) (by decide) (fun _ => rfl) (fun _ => rfl) rfl
    (.single (.tick _ 0 none .zero {}))).1 0 1 first second) (by decide)

/-- Without the precondition of `Step.elect` the exclusion fails: the duty moves from a worker
whose sweep waits on a clean-up, and the new holder starts a second sweep once the due time
comes. -/
theorem two_sweeps_after_handover :
    let job : CleanupJob :=
      { catalog := ⟨[⟨⟨"a", "a", 1, 1, none⟩, .scripted ({ cleanUps := [.stubborn] } : ScriptedType)⟩], [("a", 0)]⟩,
        schedule := .every 3600000000000, pid := 1 }
    let start : Duties 2 := ⟨fun i => { job with pid := (i.val : Int) + 1 }, { pid := 1 }, none⟩
    let swept := start.onJob 0 ⟨1700000000000000000⟩ (fun j => j.tick none ⟨1700000000000000000⟩) {}
    let handed : Duties 2 := { swept with info := swept.info.setPid 2 }
    let both := handed.onJob 1 ⟨1700003600000000000⟩ (fun j => j.tick none ⟨1700003600000000000⟩) {}
    (both.jobs 0).running = true ∧ (both.jobs 1).running = true := by
  decide

/-- Without room in the record the spacing fails: an hourly sweep that ends at
2262-04-11T23:00:00 UTC is due at midnight, which the record wraps around to the year 1677, so
the next tick at 23:00 starts another sweep. -/
theorem sweep_restarts_when_due_time_wraps :
    ∃ ds : Duties 1, Relation.ReflTransGen Step
        ⟨fun _ => { catalog := ⟨[], []⟩, schedule := .every 3600000000000, pid := 1 }, { pid := 1 }, none⟩ ds ∧
      ds.lastEnd = some ⟨9223369200000000000⟩ ∧
      (⟨9223369200000000000⟩ : Instant) < (ds.jobs 0).next ⟨9223369200000000000⟩ ∧
      ((ds.onJob 0 ⟨9223369200000000000⟩ (fun j => j.tick none ⟨9223369200000000000⟩) {}).jobs 0).sweep.isSome =
        true :=
  ⟨_, .tail (.single (.tick _ 0 none ⟨9223369200000000000⟩ {})) (.tick _ 0 none ⟨9223369200000000000⟩ {}),
    rfl, by decide, by decide⟩

end Duties

end Foreman

import Mathlib.Logic.Relation
import Foreman.Proofs.Workers.Shutdown

/-!
# Staggered rotation of the workers

A round reaps the pool, counts its acceptable workers, and starts as many as the pool is
short; the worker started while `n` are acceptable gets the window over `size - n`. From a pool
short of `m` the workers started get, in order, `now + W/m, …, now + W/1` (`Pool.stagger`):
sorted, after `now`, ending at `now + W`. `fill_started` says which workers a round started.
Over any run of rounds, clock moves, exits and kills (`RotationStep`), the pool never holds
more acceptable workers than its size (`acceptable_le_size`).
-/

namespace Foreman

set_option autoImplicit false

/-! ## The schedule of a round -/

namespace Pool

/-- The terminating times of `m` workers started at `now` into a pool short of `m`, with a
window of `window` nanoseconds: the window divided by the number still missing. -/
def stagger (now : Instant) (window : Int) : Nat → List Instant
  | 0 => []
  | m + 1 => now.add (window.tdiv (m + 1)) :: stagger now window m

variable {now : Instant} {window : Int}

theorem mem_stagger {m : Nat} {t : Instant} :
    t ∈ stagger now window m ↔ ∃ j : Nat, 1 ≤ j ∧ j ≤ m ∧ t = now.add (window.tdiv j) := by
  induction m with
  | zero => simp [stagger]
  | succ m ih =>
      simp only [stagger, List.mem_cons, ih]
      constructor
      · rintro (rfl | ⟨j, one, le, rfl⟩)
        · exact ⟨m + 1, by omega, Nat.le_refl _, rfl⟩
        · exact ⟨j, one, by omega, rfl⟩
      · rintro ⟨j, one, le, rfl⟩
        by_cases last : j = m + 1
        · exact .inl (by rw [last]; rfl)
        · exact .inr ⟨j, one, by omega, rfl⟩

/-- A share of a window that is not negative is no larger for more sharers. -/
theorem tdiv_le_tdiv {j i : Nat} (nonneg : 0 ≤ window) (one : 1 ≤ j) (le : j ≤ i) :
    window.tdiv i ≤ window.tdiv j := by
  rw [Int.tdiv_eq_ediv_of_nonneg nonneg, Int.tdiv_eq_ediv_of_nonneg nonneg]
  refine (Int.le_ediv_iff_mul_le (by omega)).mpr ?_
  calc window / i * j ≤ window / i * i :=
        Int.mul_le_mul_of_nonneg_left (by omega) (Int.ediv_nonneg nonneg (by omega))
    _ ≤ window := Int.ediv_mul_le window (by omega)

theorem one_le_tdiv {i : Nat} (one : 1 ≤ i) (large : (i : Int) ≤ window) : 1 ≤ window.tdiv i := by
  rw [Int.tdiv_eq_ediv_of_nonneg (by omega)]
  exact (Int.le_ediv_iff_mul_le (by omega)).mpr (by omega)

theorem stagger_sorted (nonneg : 0 ≤ window) (m : Nat) : (stagger now window m).Pairwise (· ≤ ·) := by
  induction m with
  | zero => exact List.Pairwise.nil
  | succ m ih =>
      refine List.Pairwise.cons (fun t mem => ?_) ih
      obtain ⟨j, one, le, rfl⟩ := mem_stagger.mp mem
      simp only [Instant.le_iff_nanos, Instant.add_nanos]
      have := tdiv_le_tdiv (i := m + 1) nonneg one (by omega)
      simp only [Int.natCast_add, Int.natCast_one] at this
      omega

theorem stagger_after {m : Nat} (large : (m : Int) ≤ window) : ∀ t ∈ stagger now window m, now < t := by
  intro t mem
  obtain ⟨j, one, le, rfl⟩ := mem_stagger.mp mem
  have : 1 ≤ window.tdiv j := one_le_tdiv one (by omega)
  simp only [Instant.lt_iff_nanos, Instant.add_nanos]
  omega

theorem stagger_getLast? (m : Nat) : (stagger now window (m + 1)).getLast? = some (now.add window) := by
  induction m with
  | zero => simp [stagger]
  | succ m ih =>
      rw [stagger, List.getLast?_cons, ih]
      rfl

end Pool

/-! ## What a reap and a start do to the acceptable workers -/

namespace PoolMember

variable {w : PoolMember} {now later : Instant}

theorem acceptable_of_later (le : now ≤ later) (acceptable : w.status later = .acceptable) :
    w.status now = .acceptable := by
  obtain ⟨running, unsignalled, ahead⟩ := status_eq_acceptable.mp acceptable
  refine status_eq_acceptable.mpr ⟨running, unsignalled, ?_⟩
  simp only [Instant.lt_iff_nanos, Instant.le_iff_nanos] at le ahead ⊢
  omega

@[simp] theorem signal_terminating (s : Signal) : (w.signal s).2.terminating = true := by
  unfold signal
  dsimp only
  split <;> rfl

@[simp] theorem signal_terminatingTime (s : Signal) : (w.signal s).2.terminatingTime = w.terminatingTime := by
  unfold signal
  dsimp only
  split <;> rfl

theorem Process.deliver_deliver (q : Process) (s : Signal) : ((q.deliver s).2.deliver s).2 = (q.deliver s).2 := by
  have noted : (if q.received.contains s then q.received else q.received ++ [s]).contains s = true := by
    split
    · assumption
    · simp only [List.contains_append, List.contains_cons, List.contains_nil, Bool.or_false, Bool.or_eq_true]
      exact .inr (by cases s <;> rfl)
  unfold Process.deliver
  cases reaction : q.reactions.to s <;> simp [reaction, noted]

theorem signal_signal (s : Signal) : ((w.signal s).2.signal s).2 = (w.signal s).2 := by
  unfold signal
  by_cases exited : w.process.exited = true
  · simp [exited]
  · simp only [exited, Bool.false_eq_true, ↓reduceIte]
    split
    · rfl
    · simp [Process.deliver_deliver]

theorem signal_not_acceptable (s : Signal) : (w.signal s).2.status now ≠ .acceptable := by
  intro acceptable
  have unsignalled := (status_eq_acceptable.mp acceptable).2.1
  simp at unsignalled

theorem exit_not_acceptable : w.exit.status now ≠ .acceptable := by
  intro acceptable
  have running := (status_eq_acceptable.mp acceptable).1
  simp [exit, Process.exit] at running

end PoolMember

namespace Pool

variable {p : Pool} {now : Instant}

/-- What a reap does to one worker: a live one past its terminating time by a whole window is
killed. -/
def reaped (window : Int) (now : Instant) (w : PoolMember) : PoolMember :=
  if w.status now == .exited then w
  else if w.terminatingTime.add window ≤ now then (w.signal .kill).2
  else w

theorem reap_workers : (p.reap now).workers = p.workers.map (reaped p.window now) := rfl

@[simp] theorem reap_launcher : (p.reap now).launcher = p.launcher := rfl

theorem acceptable_of_reaped {window : Int} {w : PoolMember} (acceptable : (reaped window now w).status now = .acceptable) :
    w.status now = .acceptable := by
  unfold reaped at acceptable
  split at acceptable
  · exact acceptable
  · split at acceptable
    · exact absurd acceptable (PoolMember.signal_not_acceptable _)
    · exact acceptable

/-- With a window that is not negative a reap leaves an acceptable worker as it is. -/
theorem reaped_of_acceptable {window : Int} {w : PoolMember} (nonneg : 0 ≤ window)
    (acceptable : w.status now = .acceptable) : reaped window now w = w := by
  have ahead := (PoolMember.status_eq_acceptable.mp acceptable).2.2
  have notOverdue : ¬ w.terminatingTime.add window ≤ now := by
    simp only [Instant.lt_iff_nanos, Instant.le_iff_nanos, Instant.add_nanos] at ahead ⊢
    omega
  simp [reaped, acceptable, notOverdue]

theorem reaped_reaped (window : Int) (w : PoolMember) :
    reaped window now (reaped window now w) = reaped window now w := by
  unfold reaped
  by_cases exited : (w.status now == .exited) = true
  · simp [exited]
  · by_cases overdue : w.terminatingTime.add window ≤ now
    · -- the killed worker keeps its terminating time, so a second reap kills it again
      simp only [exited, overdue, Bool.false_eq_true, ↓reduceIte, PoolMember.signal_terminatingTime]
      split
      · rfl
      · exact PoolMember.signal_signal _
    · simp [exited, overdue]

theorem reap_reap : (p.reap now).reap now = p.reap now := by
  simp only [reap, List.map_map]
  congr 1
  exact List.map_congr_left fun w _ => reaped_reaped p.window w

theorem reap_count_le : (p.reap now).count now .acceptable ≤ p.count now .acceptable := by
  simp only [count, reap_workers, List.countP_map]
  refine List.countP_mono_left fun w _ acceptable => ?_
  simp only [Function.comp_apply, beq_iff_eq] at acceptable ⊢
  exact acceptable_of_reaped acceptable

theorem reap_count (nonneg : 0 ≤ p.window) : (p.reap now).count now .acceptable = p.count now .acceptable := by
  simp only [count, reap_workers, List.countP_map]
  refine List.countP_congr fun w _ => ?_
  simp only [Function.comp_apply, beq_iff_eq]
  exact ⟨acceptable_of_reaped, fun acceptable => (reaped_of_acceptable nonneg acceptable).symm ▸ acceptable⟩

/-- What starting a worker does: the pool is reaped, and a launch that succeeds appends a
running worker, not signalled, started at `now`, whose terminating time is its lifetime away. -/
theorem add_eq (p : Pool) (now : Instant) :
    p.add now = match p.launcher.launch with
      | (.error e, l) => (.error e, { (p.reap now) with launcher := l })
      | (.ok proc, l) =>
        (.ok ⟨proc, now, now.add ((p.reap now).nextLifetime now), false⟩,
          { (p.reap now) with
            launcher := l
            workers := (p.reap now).workers ++ [⟨proc, now, now.add ((p.reap now).nextLifetime now), false⟩] }) :=
  rfl

theorem add_count_le : (p.add now).2.count now .acceptable ≤ p.count now .acceptable + 1 := by
  have reaped : (p.reap now).count now .acceptable ≤ p.count now .acceptable := reap_count_le
  obtain ⟨-, -, same | ⟨proc, -, -, grown⟩⟩ := add_cases p now
  · simp only [count, same] at reaped ⊢
    omega
  · simp only [count, grown, List.countP_append] at reaped ⊢
    have one : [(⟨proc, now, now.add ((p.reap now).nextLifetime now), false⟩ : PoolMember)].countP
        (fun w => w.status now == .acceptable) ≤ 1 := List.countP_le_length
    omega

theorem count_le_of_le {later : Instant} (le : now ≤ later) :
    p.count later .acceptable ≤ p.count now .acceptable :=
  List.countP_mono_left fun w _ acceptable => by
    simp only [beq_iff_eq] at acceptable ⊢
    exact PoolMember.acceptable_of_later le acceptable

theorem onWorker_count_le (pid : Int) (f : PoolMember → Option Fault × PoolMember)
    (keeps : ∀ w, (f w).2.status now = .acceptable → w.status now = .acceptable) :
    (p.onWorker pid f).2.count now .acceptable ≤ p.count now .acceptable ∧ (p.onWorker pid f).2.size = p.size := by
  refine ⟨?_, rfl⟩
  simp only [count, onWorker_workers, List.countP_map]
  refine List.countP_mono_left fun w _ acceptable => ?_
  simp only [Function.comp_apply, beq_iff_eq] at acceptable ⊢
  split at acceptable
  · exact keeps w acceptable
  · exact acceptable

end Pool

namespace Launcher

/-- The next `m` launches all succeed: none of their numbers is one that fails. -/
def Succeeds (l : Launcher) (m : Nat) : Prop :=
  ∀ j, l.launched < j → j ≤ l.launched + m → j ∉ l.failing

variable {l : Launcher} {m : Nat}

theorem launch_of_succeeds (ok : l.Succeeds (m + 1)) :
    ∃ proc, l.launch = (.ok proc, { l with launched := l.launched + 1 }) := by
  have fresh : l.failing.contains (l.launched + 1) = false := by
    simpa using ok (l.launched + 1) (by omega) (by omega)
  unfold launch
  simp only [fresh, Bool.false_eq_true, ↓reduceIte]
  exact ⟨_, rfl⟩

theorem Succeeds.next (ok : l.Succeeds (m + 1)) : ({ l with launched := l.launched + 1 } : Launcher).Succeeds m :=
  fun j after upTo => ok j (by dsimp only at after; omega) (by dsimp only at upTo; omega)

end Launcher

/-! ## A round -/

namespace Supervisor

/-- Starting `m` workers one after another into a reaped pool short of `m` acceptable
workers, with a window of at least its size: they are appended in order with the first
terminating times of `Pool.stagger`, acceptable at `now`; all `m` start unless a launch fails,
and none fails when the next `m` launches succeed. -/
theorem spawn_staggered (now : Instant) : ∀ (m : Nat) (p : Pool), p.reap now = p →
    (p.size : Int) ≤ p.window → p.count now .acceptable + m = p.size →
    ∃ started : List PoolMember, (spawn now m p).2.workers = p.workers ++ started ∧
      (spawn now m p).2.size = p.size ∧
      (started.map (·.terminatingTime)).IsPrefix (Pool.stagger now p.window m) ∧
      (∀ w ∈ started, w.startedAt = now ∧ w.status now = .acceptable) ∧
      ((spawn now m p).1 = none → started.length = m) ∧
      (p.launcher.Succeeds m → (spawn now m p).1 = none)
  | 0, p, _, _, _ =>
      ⟨[], by simp [spawn], rfl, List.nil_prefix, fun _ mem => absurd mem List.not_mem_nil, fun _ => rfl, fun _ => rfl⟩
  | m + 1, p, fixed, window, short => by
      have lifetime : p.nextLifetime now = p.window.tdiv (m + 1) := by
        unfold Pool.nextLifetime
        simp only [show p.count now .acceptable < p.size by omega, ↓reduceIte]
        congr 1
        omega
      rw [spawn, Pool.add_eq, fixed, lifetime]
      rcases launched : p.launcher.launch with ⟨_ | proc, l⟩
      · dsimp only
        refine ⟨[], by simp, rfl, List.nil_prefix, fun _ mem => absurd mem List.not_mem_nil, fun failed => (by cases failed),
          fun ok => ?_⟩
        obtain ⟨proc, ok⟩ := Launcher.launch_of_succeeds ok
        rw [launched] at ok
        cases ok
      · dsimp only
        -- the new worker accepts work at once, so the next start sees one more acceptable worker
        let new : PoolMember := ⟨proc, now, now.add (p.window.tdiv (m + 1)), false⟩
        have ahead : now < new.terminatingTime := by
          have share : 1 ≤ p.window.tdiv ((m + 1 : Nat) : Int) := Pool.one_le_tdiv (by omega) (by omega)
          simp only [Int.natCast_add, Int.natCast_one] at share
          simp only [new, Instant.lt_iff_nanos, Instant.add_nanos]
          omega
        have acceptable : new.status now = .acceptable :=
          PoolMember.status_eq_acceptable.mpr ⟨Launcher.launch_running launched, rfl, ahead⟩
        let p₁ : Pool := { p with launcher := l, workers := p.workers ++ [new] }
        have fixed₁ : p₁.reap now = p₁ := by
          have old : p.workers.map (Pool.reaped p.window now) = p.workers := congrArg Pool.workers fixed
          have kept : Pool.reaped p.window now new = new := Pool.reaped_of_acceptable (by omega) acceptable
          have workers : p₁.workers.map (Pool.reaped p.window now) = p₁.workers := by
            simp only [p₁, List.map_append, List.map_cons, List.map_nil, old, kept]
          show { p₁ with workers := p₁.workers.map (Pool.reaped p.window now) } = p₁
          rw [workers]
        have short₁ : p₁.count now .acceptable + m = p₁.size := by
          have one : [new].countP (fun w => w.status now == .acceptable) = 1 := by simp [acceptable]
          simp only [p₁, Pool.count, List.countP_append, one] at short ⊢
          omega
        obtain ⟨started, grown, size, early, each, all, succeeds⟩ := spawn_staggered now m p₁ fixed₁ window short₁
        refine ⟨new :: started, by rw [grown]; simp [p₁], size, ?_, ?_, fun done => by simp [all done], fun ok => ?_⟩
        · simp only [List.map_cons, Pool.stagger]
          exact (List.prefix_cons_inj _).mpr early
        · intro w mem
          rcases List.mem_cons.mp mem with rfl | later
          · exact ⟨rfl, acceptable⟩
          · exact each w later
        · obtain ⟨proc', ok'⟩ := Launcher.launch_of_succeeds ok
          rw [launched] at ok'
          obtain ⟨-, rfl⟩ := Prod.mk.inj ok'
          exact succeeds ok.next

@[simp] theorem check_pool (v : Supervisor) : v.check.2.pool = v.pool := rfl

def Healthy (v : Supervisor) : Prop := v.check.1 = none

theorem fill_cases (v : Supervisor) (now : Instant) :
    (∃ e, v.check.1 = some e ∧ v.fill now = v.check) ∨
      (v.Healthy ∧
        let spawned := spawn now (v.pool.size - (v.pool.reap now).count now .acceptable) (v.pool.reap now)
        (v.fill now).1 = spawned.1 ∧ (v.fill now).2.pool = spawned.2) := by
  unfold fill
  split
  · rename_i e v₁ checked
    exact .inl ⟨e, by rw [checked], by rw [checked]⟩
  · rename_i v₁ checked
    have kept : v₁.pool = v.pool := congrArg (fun c => c.2.pool) checked.symm
    refine .inr ⟨by unfold Healthy; rw [checked], ?_⟩
    dsimp only
    rw [kept]
    split <;> rename_i spawned <;> simp only [Pool.reap_size] at spawned <;> simp [spawned]

/-- What a round does at `now`, with a window of at least the pool's size, to a pool holding
at most `size` acceptable workers, whatever the record and launches do: the workers it starts
are appended in order with the schedule's first terminating times for those missing, started
at `now` and acceptable then. A round reporting no failure started all and leaves exactly
`size` acceptable workers; it reports none when the record is there and its launches succeed. -/
theorem fill_started (v : Supervisor) (now : Instant) (window : (v.pool.size : Int) ≤ v.pool.window)
    (short : v.pool.count now .acceptable ≤ v.pool.size) :
    let m := v.pool.size - v.pool.count now .acceptable
    let started := (v.fill now).2.pool.workers.drop v.pool.workers.length
    (started.map (·.terminatingTime)).IsPrefix (Pool.stagger now v.pool.window m) ∧
      (∀ w ∈ started, w.startedAt = now ∧ w.status now = .acceptable) ∧
      ((v.fill now).1 = none → started.length = m ∧ (v.fill now).2.pool.count now .acceptable = v.pool.size) ∧
      (v.Healthy → v.pool.launcher.Succeeds m → (v.fill now).1 = none) := by
  dsimp only
  have same : (v.pool.reap now).count now .acceptable = v.pool.count now .acceptable :=
    Pool.reap_count (by omega)
  obtain ⟨news, grown, -, early, each, all, succeeds⟩ :=
    spawn_staggered now (v.pool.size - v.pool.count now .acceptable) (v.pool.reap now) Pool.reap_reap
      (by simpa using window) (by simp only [same, Pool.reap_size]; omega)
  rcases fill_cases v now with ⟨e, lost, filled⟩ | ⟨healthy, result, pool⟩
  · -- the record is lost: the round starts nothing
    have none : (v.fill now).2.pool.workers.drop v.pool.workers.length = [] := by
      simp [filled, check_pool]
    refine ⟨by simp [none], by simp [none], fun done => ?_, fun healthy => ?_⟩
    · rw [filled, lost] at done
      cases done
    · rw [Healthy, lost] at healthy
      cases healthy
  · simp only [same] at result pool
    have drop : (v.fill now).2.pool.workers.drop v.pool.workers.length = news := by
      have length : (v.pool.reap now).workers.length = v.pool.workers.length := by simp [Pool.reap_workers]
      rw [pool, grown, ← length, List.drop_left]
    rw [drop]
    refine ⟨early, each, fun done => ?_, fun _ ok => result.trans (succeeds ok)⟩
    have counted : news.countP (fun w => w.status now == .acceptable) = news.length :=
      List.countP_eq_length.mpr fun w mem => by simp [(each w mem).2]
    have full := all (result.symm.trans done)
    refine ⟨full, ?_⟩
    have total : (spawn now (v.pool.size - v.pool.count now .acceptable) (v.pool.reap now)).2.count now .acceptable =
        (v.pool.reap now).count now .acceptable + news.length := by
      show List.countP _ (spawn now _ (v.pool.reap now)).2.workers =
        List.countP _ (v.pool.reap now).workers + _
      rw [grown, List.countP_append, counted]
    rw [pool, total, same, full]
    omega

/-! ## Never more acceptable workers than the pool's size -/

theorem spawn_count_le (now : Instant) : ∀ (n : Nat) (p : Pool),
    (spawn now n p).2.count now .acceptable ≤ p.count now .acceptable + n ∧ (spawn now n p).2.size = p.size
  | 0, p => ⟨by simp [spawn], rfl⟩
  | n + 1, p => by
      obtain ⟨size, -, -⟩ := Pool.add_cases p now
      have added : (p.add now).2.count now .acceptable ≤ p.count now .acceptable + 1 := Pool.add_count_le
      unfold spawn
      split
      · rename_i e q started
        rw [started] at size added
        exact ⟨by dsimp only at added ⊢; omega, size⟩
      · rename_i w q started
        rw [started] at size added
        obtain ⟨count, size'⟩ := spawn_count_le now n q
        exact ⟨by dsimp only at added; omega, size'.trans size⟩

theorem fill_bounded {v : Supervisor} {now : Instant} (bounded : v.pool.count now .acceptable ≤ v.pool.size) :
    (v.fill now).2.pool.count now .acceptable ≤ (v.fill now).2.pool.size := by
  rcases fill_cases v now with ⟨e, -, filled⟩ | ⟨-, -, pool⟩
  · rw [filled, check_pool]
    exact bounded
  · rw [pool]
    obtain ⟨count, size⟩ :=
      spawn_count_le now (v.pool.size - (v.pool.reap now).count now .acceptable) (v.pool.reap now)
    have reaped : (v.pool.reap now).count now .acceptable ≤ v.pool.count now .acceptable :=
      Pool.reap_count_le
    rw [size, Pool.reap_size]
    omega

/-- What can happen to a supervisor and its clock between two looks at its pool. -/
inductive RotationStep : Supervisor × Instant → Supervisor × Instant → Prop
  /-- A round at the current time. -/
  | fill (v : Supervisor) (now : Instant) : RotationStep (v, now) ((v.fill now).2, now)
  /-- The clock moves on. -/
  | advance (v : Supervisor) (now later : Instant) : now ≤ later → RotationStep (v, now) (v, later)
  /-- The process of the workers with a pid leaves. -/
  | exit (v : Supervisor) (now : Instant) (pid : Int) :
      RotationStep (v, now) ({ v with pool := (v.pool.onWorker pid fun w => (none, w.exit)).2 }, now)
  /-- The workers with a pid are killed. -/
  | kill (v : Supervisor) (now : Instant) (pid : Int) :
      RotationStep (v, now) ({ v with pool := (v.pool.onWorker pid (·.signal .kill)).2 }, now)

/-- The pool holds at most its size of acceptable workers at the clock's time. -/
def Bounded (x : Supervisor × Instant) : Prop := x.1.pool.count x.2 .acceptable ≤ x.1.pool.size

theorem RotationStep.bounded {x y : Supervisor × Instant} (step : RotationStep x y) (bounded : Bounded x) :
    Bounded y := by
  cases step with
  | fill v now => exact fill_bounded bounded
  | advance v now later le => exact Nat.le_trans (Pool.count_le_of_le le) bounded
  | exit v now pid =>
      obtain ⟨count, size⟩ := @Pool.onWorker_count_le v.pool now pid (fun w => (none, w.exit))
        fun _ acceptable => absurd acceptable PoolMember.exit_not_acceptable
      exact Nat.le_trans count (size ▸ bounded)
  | kill v now pid =>
      obtain ⟨count, size⟩ := @Pool.onWorker_count_le v.pool now pid (·.signal .kill)
        fun _ acceptable => absurd acceptable (PoolMember.signal_not_acceptable _)
      exact Nat.le_trans count (size ▸ bounded)

theorem Bounded.reaches {x y : Supervisor × Instant} (bounded : Bounded x)
    (reaches : Relation.ReflTransGen RotationStep x y) : Bounded y := by
  induction reaches with
  | refl => exact bounded
  | tail _ step ih => exact step.bounded ih

theorem bounded_new (s : Settings) (l : Launcher) (info : CleanupInfo) (health : List String) (start : Instant) :
    Bounded (Supervisor.new s l info health, start) := by
  simp [Bounded, Supervisor.new, Pool.new, Pool.count]

end Supervisor

/-- Staggered rotation. A round at `now`, with a window of at least the pool's size `k` in
nanoseconds, into a pool holding `a ≤ k` acceptable workers: the workers it starts are, in
order, the first of `now + W/(k-a), now + W/(k-a-1), …, now + W/1`, started at `now` and
acceptable then; without a reported failure it started all `k - a`, leaving `k` acceptable,
and it reports none when the record is there and its launches succeed. The times never
decrease, lie after `now`, and end at `now + W`. Over any run of rounds, clock moves, exits
and kills from a new supervisor, the pool never holds more than `k` acceptable workers. -/
theorem staggered_rotation :
    (∀ (v : Supervisor) (now : Instant), (v.pool.size : Int) ≤ v.pool.window →
      v.pool.count now .acceptable ≤ v.pool.size →
      let m := v.pool.size - v.pool.count now .acceptable
      let started := (v.fill now).2.pool.workers.drop v.pool.workers.length
      (started.map (·.terminatingTime)).IsPrefix (Pool.stagger now v.pool.window m) ∧
        (∀ w ∈ started, w.startedAt = now ∧ w.status now = .acceptable) ∧
        ((v.fill now).1 = none → started.length = m ∧ (v.fill now).2.pool.count now .acceptable = v.pool.size) ∧
        (v.Healthy → v.pool.launcher.Succeeds m → (v.fill now).1 = none)) ∧
    (∀ (now : Instant) (window : Int) (m : Nat), (m : Int) ≤ window →
      (Pool.stagger now window m).Pairwise (· ≤ ·) ∧ (∀ t ∈ Pool.stagger now window m, now < t) ∧
        (0 < m → (Pool.stagger now window m).getLast? = some (now.add window))) ∧
    ∀ (s : Settings) (l : Launcher) (info : CleanupInfo) (health : List String) (start now : Instant)
      (v : Supervisor),
      Relation.ReflTransGen Supervisor.RotationStep (Supervisor.new s l info health, start) (v, now) →
      v.pool.count now .acceptable ≤ v.pool.size := by
  refine ⟨fun v now window short => Supervisor.fill_started v now window short, fun now window m large => ?_,
    fun s l info health start now v reaches => (Supervisor.bounded_new s l info health start).reaches reaches⟩
  refine ⟨Pool.stagger_sorted (by omega) m, Pool.stagger_after large, fun some => ?_⟩
  obtain ⟨m, rfl⟩ : ∃ n, m = n + 1 := ⟨m - 1, by omega⟩
  exact Pool.stagger_getLast? m

/-- A round into an empty pool of three with a window of 90 s starts all three workers, given
30 s, 45 s and then the whole 90 s, and leaves three acceptable workers. -/
theorem three_workers_staggered :
    let v : Supervisor :=
      { pool := { launcher := { firstPid := 1001 }, size := 3, window := 90000000000 }, info := {} }
    let started := (v.fill ⟨0⟩).2.pool.workers.drop v.pool.workers.length
    ((v.pool.size : Int) ≤ v.pool.window ∧ v.pool.count ⟨0⟩ .acceptable ≤ v.pool.size ∧ v.Healthy ∧
        v.pool.launcher.Succeeds 3) ∧
      Pool.stagger ⟨0⟩ v.pool.window 3 = [⟨30000000000⟩, ⟨45000000000⟩, ⟨90000000000⟩] ∧
      started.length = 3 ∧ (v.fill ⟨0⟩).2.pool.count ⟨0⟩ .acceptable = 3 := by
  intro v started
  have window : (v.pool.size : Int) ≤ v.pool.window := by decide
  have short : v.pool.count ⟨0⟩ .acceptable ≤ v.pool.size := by decide
  have healthy : v.Healthy := rfl
  have succeeds : v.pool.launcher.Succeeds 3 := fun _ _ _ => List.not_mem_nil
  have round := staggered_rotation.1 v ⟨0⟩ window short
  have done := round.2.2.2 healthy succeeds
  exact ⟨⟨window, short, healthy, succeeds⟩, rfl, (round.2.2.1 done).1, (round.2.2.1 done).2⟩

/-- A round whose first launch fails starts no worker, though the pool of two is short of both:
the round stops at the failure. -/
theorem fill_stops_at_failed_launch :
    let v : Supervisor :=
      { pool := { launcher := { firstPid := 1001, failing := [1] }, size := 2, window := 120000000000 }, info := {} }
    v.pool.count ⟨0⟩ .acceptable = 0 ∧ (v.fill ⟨0⟩).2.pool.workers.length = 0 ∧ (v.fill ⟨0⟩).1.isSome = true := by
  decide

end Foreman

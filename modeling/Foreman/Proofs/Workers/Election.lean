import Mathlib.Data.List.Induction
import Mathlib.Data.List.Nodup
import Foreman.Workers.Supervisor

/-!
# The clean-up election in a pool of workers

Each supervisor round ends with the clean-up election. The duty stays with a holder that
accepts new work; otherwise it goes to the acceptable worker staying longest, first added among
equals (`Pool.Longest`). The search keeps its best candidate as a pid, 0 for none yet
(`Pool.found_foldl`). `cleanup_duty_election`, over pools of distinct nonzero pids: the duty
is cleared exactly when no worker is acceptable, stays with an acceptable holder, else goes to
the longest-staying worker, and a change is reported exactly when the holder changed.
-/

namespace Foreman

set_option autoImplicit false

instance : LawfulBEq WorkerStatus where
  eq_of_beq {a b} := by cases a <;> cases b <;> decide
  rfl {a} := by cases a <;> decide

namespace PoolMember

variable {w : PoolMember} {now : Instant}

theorem status_eq_acceptable :
    w.status now = .acceptable ↔
      w.process.exited = false ∧ w.terminating = false ∧ now < w.terminatingTime := by
  unfold status
  cases w.process.exited <;> cases w.terminating <;> simp

end PoolMember

theorem Launcher.launch_running {l l' : Launcher} {proc : Process} (launched : l.launch = (.ok proc, l')) :
    proc.exited = false := by
  unfold Launcher.launch at launched
  dsimp only at launched
  split at launched
  · cases launched
  · cases launched
    rfl

namespace Pool

variable {p : Pool} {now : Instant}

/-! ## Acceptable workers through a round -/

def Staffed (p : Pool) (now : Instant) : Prop := ∃ w ∈ p.workers, w.status now = .acceptable

/-- The pid `pid` is that of a worker of the pool accepting new work at `now`. -/
def Holds (p : Pool) (now : Instant) (pid : Int) : Prop :=
  ∃ w ∈ p.workers, w.pid = pid ∧ w.status now = .acceptable

theorem Holds.staffed {pid : Int} (holds : p.Holds now pid) : p.Staffed now := by
  obtain ⟨w, mem, -, acceptable⟩ := holds
  exact ⟨w, mem, acceptable⟩

theorem staffed_of_count (count : 0 < p.count now .acceptable) : p.Staffed now := by
  obtain ⟨w, mem, acceptable⟩ := List.countP_pos_iff.mp count
  exact ⟨w, mem, by simpa using acceptable⟩

@[simp] theorem reap_size : (p.reap now).size = p.size := rfl

@[simp] theorem reap_window : (p.reap now).window = p.window := rfl

/-- The lifetime of a new worker is positive when the window is at least the pool's size:
the window is shared among at most `size` missing workers. -/
theorem nextLifetime_pos (size : 0 < p.size) (window : (p.size : Int) ≤ p.window) :
    0 < p.nextLifetime now := by
  unfold nextLifetime
  dsimp only
  split
  · rename_i below
    have share : (1 : Int) ≤ p.window / ((p.size - p.count now .acceptable : Nat) : Int) :=
      (Int.le_ediv_iff_mul_le (by omega)).mpr (by omega)
    rw [Int.tdiv_eq_ediv_of_nonneg (by omega)]
    omega
  · omega

/-- What adding a worker does: the pool is reaped, and a launch that succeeds appends a running
worker, not signalled, whose terminating time is the lifetime away from `now`. -/
theorem add_cases (p : Pool) (now : Instant) :
    (p.add now).2.size = p.size ∧ (p.add now).2.window = p.window ∧
      ((p.add now).2.workers = (p.reap now).workers ∨
        ∃ proc : Process, proc.exited = false ∧ (p.add now).1.toOption.isSome ∧
          (p.add now).2.workers =
            (p.reap now).workers ++ [⟨proc, now, now.add ((p.reap now).nextLifetime now), false⟩]) := by
  unfold add
  dsimp only
  split
  · exact ⟨rfl, rfl, .inl rfl⟩
  · rename_i proc l launched
    exact ⟨rfl, rfl, .inr ⟨proc, Launcher.launch_running launched, rfl, rfl⟩⟩

theorem add_staffed (size : 0 < p.size) (window : (p.size : Int) ≤ p.window) {w : PoolMember}
    {p' : Pool} (added : p.add now = (.ok w, p')) : p'.Staffed now := by
  obtain ⟨-, -, same | ⟨proc, running, -, grown⟩⟩ := add_cases p now
  · -- a launch that fails returns an error, not a worker
    unfold add at added same
    dsimp only at added same
    split at added
    · cases added
    · rename_i proc l launched
      rw [launched] at same
      cases added
      simp at same
  · rw [added] at grown
    have lifetime : 0 < (p.reap now).nextLifetime now := nextLifetime_pos size window
    refine ⟨_, grown ▸ List.mem_append_right _ (List.mem_singleton_self _), ?_⟩
    rw [PoolMember.status_eq_acceptable]
    refine ⟨running, rfl, ?_⟩
    simp only [Instant.lt_iff_nanos, Instant.add_nanos]
    omega

/-! ## The worker that stays longest -/

/-- `w` is the acceptable worker among `ws` that stays longest at `now`: it accepts work, every
acceptable worker added before it leaves strictly earlier, and none added after it leaves
later. -/
def Longest (ws : List PoolMember) (now : Instant) (w : PoolMember) : Prop :=
  ∃ pre post, ws = pre ++ w :: post ∧ w.status now = .acceptable ∧
    (∀ v ∈ pre, v.status now = .acceptable → v.terminatingTime < w.terminatingTime) ∧
    (∀ v ∈ post, v.status now = .acceptable → v.terminatingTime ≤ w.terminatingTime)

variable {ws : List PoolMember} {w : PoolMember}

theorem Longest.mem (longest : Longest ws now w) : w ∈ ws := by
  obtain ⟨pre, post, rfl, -⟩ := longest
  simp

theorem Longest.acceptable (longest : Longest ws now w) : w.status now = .acceptable := by
  obtain ⟨-, -, -, acceptable, -⟩ := longest
  exact acceptable

/-- No acceptable worker stays longer than the one that stays longest. -/
theorem Longest.le (longest : Longest ws now w) :
    ∀ v ∈ ws, v.status now = .acceptable → v.terminatingTime.nanos ≤ w.terminatingTime.nanos := by
  obtain ⟨pre, post, rfl, -, before, after⟩ := longest
  intro v mem acceptable
  simp only [List.mem_append, List.mem_cons] at mem
  rcases mem with early | rfl | late
  · exact Int.le_of_lt (before v early acceptable)
  · exact Int.le_refl _
  · exact after v late acceptable

theorem Longest.append_of_le (longest : Longest ws now w) (x : PoolMember)
    (noLater : x.status now = .acceptable → x.terminatingTime ≤ w.terminatingTime) :
    Longest (ws ++ [x]) now w := by
  obtain ⟨pre, post, rfl, acceptable, before, after⟩ := longest
  refine ⟨pre, post ++ [x], by simp, acceptable, before, fun v mem => ?_⟩
  simp only [List.mem_append, List.mem_singleton] at mem
  rcases mem with old | rfl
  · exact after v old
  · exact noLater

theorem longest_append_of_lt {x : PoolMember} (acceptable : x.status now = .acceptable)
    (later : ∀ v ∈ ws, v.status now = .acceptable → v.terminatingTime < x.terminatingTime) :
    Longest (ws ++ [x]) now x :=
  ⟨ws, [], rfl, acceptable, later, fun _ mem => nomatch mem⟩

/-- One step of the search for the worker that stays longest, as `longestAcceptable` makes it:
the best so far is a pid, 0 while there is none, and its terminating time. -/
def pickLongest (now : Instant) (best : Int × Instant) (w : PoolMember) : Int × Instant :=
  if w.status now == .acceptable && (best.1 == 0 || best.2 < w.terminatingTime) then
    (w.pid, w.terminatingTime)
  else best

theorem longestAcceptable_eq (p : Pool) (now : Instant) :
    p.longestAcceptable now = (p.workers.foldl (pickLongest now) (0, Instant.zero)).1 := rfl

/-- What the search holds after the workers `ws`: its start while none of them accepts work;
else an acceptable one of them, and the one that stays longest when no acceptable worker has
pid 0. -/
structure Found (ws : List PoolMember) (now : Instant) (best : Int × Instant) : Prop where
  idle : (∀ v ∈ ws, v.status now ≠ .acceptable) → best = (0, Instant.zero)
  staffed : (∃ v ∈ ws, v.status now = .acceptable) →
    ∃ v ∈ ws, v.status now = .acceptable ∧ best = (v.pid, v.terminatingTime)
  longest : (∀ v ∈ ws, v.status now = .acceptable → v.pid ≠ 0) → (∃ v ∈ ws, v.status now = .acceptable) →
    ∃ v, Longest ws now v ∧ best = (v.pid, v.terminatingTime)

theorem found_nil : Found [] now (0, Instant.zero) where
  idle _ := rfl
  staffed := fun ⟨_, mem, _⟩ => nomatch mem
  longest _ := fun ⟨_, mem, _⟩ => nomatch mem

/-- A worker that does not accept work leaves the search where it was. -/
theorem Found.append_idle {best : Int × Instant} (found : Found ws now best) {x : PoolMember}
    (idle : x.status now ≠ .acceptable) : Found (ws ++ [x]) now (pickLongest now best x) := by
  have kept : pickLongest now best x = best := by simp [pickLongest, idle]
  have old : ∀ v ∈ ws ++ [x], v.status now = .acceptable → v ∈ ws := by
    intro v mem acceptable
    simp only [List.mem_append, List.mem_singleton] at mem
    rcases mem with old | rfl
    · exact old
    · exact absurd acceptable idle
  rw [kept]
  refine ⟨fun none => found.idle fun v mem => none v (List.mem_append_left _ mem), ?_, ?_⟩
  · rintro ⟨v, mem, acceptable⟩
    obtain ⟨u, mem', acceptable', eq⟩ := found.staffed ⟨v, old v mem acceptable, acceptable⟩
    exact ⟨u, List.mem_append_left _ mem', acceptable', eq⟩
  · rintro nonzero ⟨v, mem, acceptable⟩
    obtain ⟨u, longest, eq⟩ := found.longest (fun v mem => nonzero v (List.mem_append_left _ mem))
      ⟨v, old v mem acceptable, acceptable⟩
    exact ⟨u, longest.append_of_le x fun acceptable => absurd acceptable idle, eq⟩

theorem Found.append_first {best : Int × Instant} (found : Found ws now best) {x : PoolMember}
    (acceptable : x.status now = .acceptable) (first : ∀ v ∈ ws, v.status now ≠ .acceptable) :
    Found (ws ++ [x]) now (pickLongest now best x) := by
  have picked : pickLongest now best x = (x.pid, x.terminatingTime) := by
    simp [pickLongest, acceptable, found.idle first]
  rw [picked]
  refine ⟨fun none => absurd acceptable (none x (by simp)), fun _ => ⟨x, by simp, acceptable, rfl⟩,
    fun _ _ => ⟨x, longest_append_of_lt acceptable fun v mem acc => absurd acc (first v mem), rfl⟩⟩

theorem Found.append_later {best : Int × Instant} (found : Found ws now best) {x : PoolMember}
    (acceptable : x.status now = .acceptable) (seen : ∃ v ∈ ws, v.status now = .acceptable) :
    Found (ws ++ [x]) now (pickLongest now best x) := by
  refine ⟨fun none => absurd acceptable (none x (by simp)), fun _ => ?_, fun nonzero _ => ?_⟩
  · -- either `x` or the best so far, both acceptable
    obtain ⟨u, mem, acc, eq⟩ := found.staffed seen
    unfold pickLongest
    split
    · exact ⟨x, by simp, acceptable, rfl⟩
    · exact ⟨u, List.mem_append_left _ mem, acc, eq⟩
  · obtain ⟨u, longest, rfl⟩ := found.longest (fun v mem => nonzero v (List.mem_append_left _ mem)) seen
    have named : u.pid ≠ 0 := nonzero u (List.mem_append_left _ longest.mem) longest.acceptable
    by_cases later : u.terminatingTime < x.terminatingTime
    · have picked : pickLongest now (u.pid, u.terminatingTime) x = (x.pid, x.terminatingTime) := by
        simp [pickLongest, acceptable, later]
      rw [picked]
      refine ⟨x, longest_append_of_lt acceptable fun v mem acc => ?_, rfl⟩
      have := longest.le v mem acc
      simp only [Instant.lt_iff_nanos] at later ⊢
      omega
    · have kept : pickLongest now (u.pid, u.terminatingTime) x = (u.pid, u.terminatingTime) := by
        simp [pickLongest, named, later]
      rw [kept]
      refine ⟨u, longest.append_of_le x fun _ => ?_, rfl⟩
      simp only [Instant.lt_iff_nanos, Instant.le_iff_nanos] at later ⊢
      omega

theorem Found.append {best : Int × Instant} (found : Found ws now best) (x : PoolMember) :
    Found (ws ++ [x]) now (pickLongest now best x) := by
  by_cases acceptable : x.status now = .acceptable
  · by_cases seen : ∃ v ∈ ws, v.status now = .acceptable
    · exact found.append_later acceptable seen
    · exact found.append_first acceptable fun v mem acc => seen ⟨v, mem, acc⟩
  · exact found.append_idle acceptable

theorem found_foldl (now : Instant) (ws : List PoolMember) :
    Found ws now (ws.foldl (pickLongest now) (0, Instant.zero)) := by
  induction ws using List.reverseRecOn with
  | nil => exact found_nil
  | append_singleton ws x ih =>
      rw [List.foldl_append]
      exact ih.append x

theorem longestAcceptable_of_idle (idle : ¬ p.Staffed now) : p.longestAcceptable now = 0 := by
  rw [longestAcceptable_eq,
    (found_foldl now p.workers).idle fun v mem acceptable => idle ⟨v, mem, acceptable⟩]

theorem longestAcceptable_holds (staffed : p.Staffed now) : p.Holds now (p.longestAcceptable now) := by
  obtain ⟨v, mem, acceptable, eq⟩ := (found_foldl now p.workers).staffed staffed
  exact ⟨v, mem, by rw [longestAcceptable_eq, eq], acceptable⟩

theorem longestAcceptable_longest (nonzero : ∀ v ∈ p.workers, v.pid ≠ 0) (staffed : p.Staffed now) :
    ∃ v, Longest p.workers now v ∧ p.longestAcceptable now = v.pid := by
  obtain ⟨v, longest, eq⟩ := (found_foldl now p.workers).longest (fun v mem _ => nonzero v mem) staffed
  exact ⟨v, longest, by rw [longestAcceptable_eq, eq]⟩

/-! ## The holder's own status -/

theorem holds_of_isAcceptable {pid : Int} (acceptable : p.isAcceptable now pid = true) : p.Holds now pid := by
  unfold isAcceptable at acceptable
  split at acceptable
  · rename_i w found
    exact ⟨w, List.mem_of_find?_eq_some found, by simpa using List.find?_some found,
      by simpa using acceptable⟩
  · cases acceptable

theorem isAcceptable_of_holds (distinct : (p.workers.map PoolMember.pid).Nodup) {pid : Int}
    (holds : p.Holds now pid) : p.isAcceptable now pid = true := by
  obtain ⟨w, mem, rfl, acceptable⟩ := holds
  unfold isAcceptable
  split
  · rename_i v found
    have same : v = w :=
      List.inj_on_of_nodup_map distinct (List.mem_of_find?_eq_some found) mem (by simpa using List.find?_some found)
    simp [same, acceptable]
  · rename_i missing
    exact absurd (List.find?_eq_none.mp missing w mem) (by simp)

end Pool

/-! ## The election -/

section Election

variable (cur : Int) (isAcceptable : Int → Bool) (longest : Int)

theorem electCleanup_getD :
    (electCleanup cur isAcceptable longest).getD cur =
      if cur != 0 && isAcceptable cur then cur else longest := by
  unfold electCleanup
  split
  · simp_all
  · split <;> simp_all

theorem isSome_electCleanup :
    (electCleanup cur isAcceptable longest).isSome ↔ (electCleanup cur isAcceptable longest).getD cur ≠ cur := by
  unfold electCleanup
  split
  · simp
  · split <;> simp_all

end Election

namespace Pool

variable {p : Pool} {now : Instant}

theorem elected_holds (staffed : p.Staffed now) (cur : Int) :
    p.Holds now ((electCleanup cur (p.isAcceptable now) (p.longestAcceptable now)).getD cur) := by
  rw [electCleanup_getD]
  split
  · rename_i kept
    simp only [Bool.and_eq_true, bne_iff_ne] at kept
    exact holds_of_isAcceptable kept.2
  · exact longestAcceptable_holds staffed

/-- The election over a pool of distinct nonzero pids: the duty is cleared exactly when no
worker accepts work, stays with a holder that does, else goes to the worker staying longest,
and a change is reported exactly when the holder changed. -/
theorem elect_spec (distinct : (p.workers.map PoolMember.pid).Nodup) (nonzero : ∀ w ∈ p.workers, w.pid ≠ 0)
    (cur : Int) :
    let moved := electCleanup cur (p.isAcceptable now) (p.longestAcceptable now)
    (moved.getD cur = 0 ↔ ¬ p.Staffed now) ∧
      (p.Holds now cur → moved = none) ∧
      (¬ p.Holds now cur → p.Staffed now → ∃ w, Longest p.workers now w ∧ moved.getD cur = w.pid) ∧
      (moved.isSome ↔ moved.getD cur ≠ cur) := by
  intro moved
  have named : ∀ pid, p.Holds now pid → pid ≠ 0 := fun _ ⟨w, mem, same, _⟩ => same ▸ nonzero w mem
  refine ⟨⟨fun cleared staffed => named _ (elected_holds staffed cur) cleared, fun idle => ?_⟩,
    fun holds => ?_, fun free staffed => ?_, isSome_electCleanup _ _ _⟩
  · -- with no acceptable worker the holder does not hold, and no candidate is found
    have notHeld : ¬ (cur != 0 && p.isAcceptable now cur) = true := fun held =>
      idle (holds_of_isAcceptable (Bool.and_eq_true _ _ ▸ held).2).staffed
    simp only [moved, electCleanup_getD, notHeld]
    exact longestAcceptable_of_idle idle
  · have held : (cur != 0 && p.isAcceptable now cur) = true := by
      simp [named cur holds, isAcceptable_of_holds distinct holds]
    simp [moved, electCleanup, held]
  · have notHeld : ¬ (cur != 0 && p.isAcceptable now cur) = true := fun held =>
      free (holds_of_isAcceptable (Bool.and_eq_true _ _ ▸ held).2)
    obtain ⟨w, longest, eq⟩ := longestAcceptable_longest nonzero staffed
    exact ⟨w, longest, by simp [moved, electCleanup_getD, notHeld, eq]⟩

end Pool

/-! ## A round of the supervisor -/

namespace Supervisor

variable {now : Instant}

theorem spawn_staffed (now : Instant) :
    ∀ (n : Nat) (p p' : Pool), 0 < p.size → (p.size : Int) ≤ p.window → spawn now n p = (none, p') →
      p.Staffed now ∨ 0 < n → p'.Staffed now := by
  intro n
  induction n with
  | zero =>
      intro p p' _ _ spawned staffed
      cases spawned
      exact staffed.resolve_right (Nat.lt_irrefl 0)
  | succ n ih =>
      intro p p' size window spawned _
      unfold spawn at spawned
      split at spawned
      · cases spawned
      · rename_i w q added
        obtain ⟨sizeKept, windowKept, -⟩ := Pool.add_cases p now
        rw [added] at sizeKept windowKept
        exact ih q p' (sizeKept ▸ size) (sizeKept ▸ windowKept ▸ window) spawned
          (.inl (Pool.add_staffed size window added))

theorem fill_ok {v v' : Supervisor} (filled : v.fill now = (none, v')) :
    ∃ u : Supervisor, u.pool = v.pool ∧ u.info = v.info ∧
      spawn now ((v.pool.reap now).size - (v.pool.reap now).count now .acceptable) (v.pool.reap now) =
        (none, v'.pool) ∧
      v'.info.pid = (electCleanup v.info.pid (v'.pool.isAcceptable now) (v'.pool.longestAcceptable now)).getD
        v.info.pid := by
  unfold fill at filled
  split at filled
  · cases filled
  · rename_i u checked
    have same : u.pool = v.pool ∧ u.info = v.info := by
      have kept : v.check.2 = u := congrArg Prod.snd checked
      rw [← kept]
      exact ⟨rfl, rfl⟩
    dsimp only at filled
    split at filled
    · cases filled
    · rename_i p spawned
      cases filled
      refine ⟨u, same.1, same.2, same.1 ▸ spawned, ?_⟩
      rw [← same.2]
      split <;> simp_all [CleanupInfo.setPid]

/-- A round that succeeds leaves an acceptable worker when the window is at least the pool's
size: it starts as many workers as are missing, each accepting work at once. -/
theorem fill_staffed {v v' : Supervisor} (size : 0 < v.pool.size) (window : (v.pool.size : Int) ≤ v.pool.window)
    (filled : v.fill now = (none, v')) : v'.pool.Staffed now := by
  obtain ⟨-, -, -, spawned, -⟩ := fill_ok filled
  refine spawn_staffed now _ (v.pool.reap now) v'.pool size window spawned ?_
  by_cases none : (v.pool.reap now).count now .acceptable = 0
  · exact .inr (by rw [none, Pool.reap_size]; omega)
  · exact .inl (Pool.staffed_of_count (Nat.pos_of_ne_zero none))

end Supervisor

/-- The clean-up election, over a pool of distinct nonzero pids and any holder: the duty is
cleared exactly when no worker accepts work, stays with a holder that does, else goes to the
acceptable worker with the latest terminating time (first added among equals), and a change
is reported exactly when the holder changed. A round succeeding at `now`, with a window at
least the pool's size, leaves the duty with a pool worker that accepts work. -/
theorem cleanup_duty_election (now : Instant) :
    (∀ (p : Pool) (cur : Int), (p.workers.map PoolMember.pid).Nodup → (∀ w ∈ p.workers, w.pid ≠ 0) →
      let moved := electCleanup cur (p.isAcceptable now) (p.longestAcceptable now)
      (moved.getD cur = 0 ↔ ¬ p.Staffed now) ∧
        (p.Holds now cur → moved = none) ∧
        (¬ p.Holds now cur → p.Staffed now → ∃ w, Pool.Longest p.workers now w ∧ moved.getD cur = w.pid) ∧
        (moved.isSome ↔ moved.getD cur ≠ cur)) ∧
    ∀ v v' : Supervisor, 0 < v.pool.size → (v.pool.size : Int) ≤ v.pool.window → v.fill now = (none, v') →
      v'.pool.Holds now v'.info.pid := by
  refine ⟨fun p cur distinct nonzero => Pool.elect_spec distinct nonzero cur, fun v v' size window filled => ?_⟩
  obtain ⟨-, -, -, -, elected⟩ := Supervisor.fill_ok filled
  rw [elected]
  exact Pool.elected_holds (Supervisor.fill_staffed size window filled) v.info.pid

/-- A pool of three that lost its holder to its terminating time, two workers tying for the
latest time and one exited: the duty goes to one of the two, and a round starting the third
hands the duty to a worker that accepts work. -/
theorem duty_moves_on_in_a_round :
    let now : Instant := ⟨60⟩
    let v : Supervisor :=
      { pool := { launcher := { firstPid := 20 }, size := 3, window := 100,
                  workers := [⟨{ pid := 11 }, ⟨0⟩, ⟨50⟩, false⟩, ⟨{ pid := 12 }, ⟨0⟩, ⟨90⟩, false⟩,
                    ⟨{ pid := 13 }, ⟨0⟩, ⟨90⟩, false⟩, ⟨{ pid := 14, exited := true }, ⟨0⟩, ⟨99⟩, false⟩] },
        info := { pid := 11 } }
    ((v.pool.workers.map PoolMember.pid).Nodup ∧ ∀ w ∈ v.pool.workers, w.pid ≠ 0) ∧
      ¬ v.pool.Holds now 11 ∧ v.pool.Staffed now ∧
      (∃ w, Pool.Longest v.pool.workers now w ∧
        (electCleanup 11 (v.pool.isAcceptable now) (v.pool.longestAcceptable now)).getD 11 = w.pid) ∧
      (0 < v.pool.size ∧ (v.pool.size : Int) ≤ v.pool.window) ∧
      (v.fill now).2.pool.Holds now (v.fill now).2.info.pid := by
  intro now v
  have distinct : (v.pool.workers.map PoolMember.pid).Nodup := by decide
  have nonzero : ∀ w ∈ v.pool.workers, w.pid ≠ 0 := by decide
  have free : ¬ v.pool.Holds now 11 := by unfold Pool.Holds; decide
  have staffed : v.pool.Staffed now := by unfold Pool.Staffed; decide
  have elected := cleanup_duty_election now
  exact ⟨⟨distinct, nonzero⟩, free, staffed, (elected.1 v.pool 11 distinct nonzero).2.2.1 free staffed,
    ⟨by decide, by decide⟩, elected.2 v _ (by decide) (by decide) rfl⟩

end Foreman

import Foreman.Runtime.Routine

/-!
# The restart loop of a routine group

A restarting routine runs its body, and after a failure counts a restart and waits out a
backoff before it runs again, until a run ends cleanly, the group is cancelled, or the restarts
would pass a positive limit. A backoff ends by its timer or, once the group is cancelled, by the
cancellation, whichever the routine sees first. `Looping`, `Waiting` and `Ended` say how a loop
stands while its body runs, while it waits, and once it stopped. `restart_loop` follows a loop
through any sequence of ends, cancellations and backoffs (`feed`), so its name's counts match
what the loop went through (`Accounts`), and no end replaces the group's first failure
(`endRun_keeps_firstErr`).
-/

namespace Foreman

set_option autoImplicit false

/-- What happens to a restarting routine: the run in progress ends with an outcome, the group
is cancelled, or a backoff ends, by its timer or by the group's cancellation. -/
inductive Turn where
  | ends (o : Outcome (Option Fault))
  | cancel (cause : Fault)
  | timer
  | done

namespace RoutineGroup

def statsOf (g : RoutineGroup) (name : String) : RoutineStats := (g.stats.lookup name).getD {}

/-- The failure a run ends with: its error, or the panic as one. -/
def failure : Outcome (Option Fault) → Option Fault
  | .returned e => e
  | .panicked m => some (Fault.plain ("panic: " ++ m))

def panicked : Outcome (Option Fault) → Bool
  | .panicked _ => true
  | .returned _ => false

/-- Whether the end of a run, with the group cancelled or not, makes the loop try again: a
failure other than the cancelled-context one while the group is live. -/
def failed (x : Bool × Outcome (Option Fault)) : Bool :=
  !x.1 && ((failure x.2).map fun e => !e.is .canceled).getD false

variable (g : RoutineGroup) (name : String)

@[simp] theorem note_ctx (f : RoutineStats → RoutineStats) : (g.note name f).ctx = g.ctx := by
  unfold note; split <;> rfl

@[simp] theorem note_routines (f : RoutineStats → RoutineStats) : (g.note name f).routines = g.routines := by
  unfold note; split <;> rfl

@[simp] theorem note_firstErr (f : RoutineStats → RoutineStats) : (g.note name f).firstErr = g.firstErr := by
  unfold note; split <;> rfl

theorem lookup_cons_if {α : Type} (n other : String) (a : α) (rest : List (String × α)) :
    ((n, a) :: rest).lookup other = if other = n then some a else rest.lookup other := by
  by_cases here : other = n
  · subst here
    simp
  · simp [List.lookup_cons, beq_false_of_ne here, here]

theorem lookup_update (f : RoutineStats → RoutineStats) (other : String) (l : List (String × RoutineStats)) :
    (l.map fun (n, s) => if n == name then (n, f s) else (n, s)).lookup other =
      (l.lookup other).map fun s => if other = name then f s else s := by
  induction l with
  | nil => rfl
  | cons e rest ih =>
    obtain ⟨n, s⟩ := e
    simp only [List.map_cons]
    by_cases named : n = name
    · subst named
      by_cases here : other = n <;> simp_all [lookup_cons_if]
    · simp only [beq_false_of_ne named, Bool.false_eq_true, if_false, lookup_cons_if]
      by_cases here : other = n
      · subst here
        simp [named]
      · rw [if_neg here, if_neg here]
        exact ih

@[simp] theorem statsOf_note (f : RoutineStats → RoutineStats) (other : String) :
    (g.note name f).statsOf other = if other = name then f (g.statsOf name) else g.statsOf other := by
  unfold note statsOf
  split
  · rename_i present
    rw [lookup_update]
    obtain ⟨⟨n, s⟩, mem, named⟩ := List.any_eq_true.1 present
    have found : ∃ s, g.stats.lookup name = some s := by
      simp only [beq_iff_eq] at named
      subst named
      exact Option.isSome_iff_exists.1 (List.lookup_isSome_iff.2 ⟨_, mem, by simp⟩)
    obtain ⟨s', hs⟩ := found
    by_cases same : other = name
    · subst same
      simp [hs]
    · cases g.stats.lookup other <;> simp [same]
  · rename_i absent
    have missing : g.stats.lookup name = none := by
      rw [List.lookup_eq_none_iff]
      intro p mem
      have other : ¬p.1 = name := by simpa using List.any_eq_false.1 (Bool.eq_false_iff.2 absent) p mem
      simpa using Ne.symm other
    by_cases same : other = name
    · subst same
      simp [List.lookup_append, missing]
    · have skip : [(name, f {})].lookup other = none := by simp [same]
      simp only [List.lookup_append, skip, Option.or_none, same, if_false]

variable {g name}

/-- How the end of a run is counted: its failure, one fewer active, a panic counted. -/
theorem record_eq (o : Outcome (Option Fault)) :
    g.record name o = (failure o, g.note name fun s =>
      { s with active := s.active - 1, panics := s.panics + if panicked o then 1 else 0,
               lastErr := ((failure o).map (·.message)).getD s.lastErr }) := by
  cases o <;> rfl

theorem clean_failure (o : Outcome (Option Fault)) : g.clean (failure o) = !failed (g.ctx.done, o) := by
  cases h : failure o <;> simp [clean, failed, h]

@[simp] theorem fail_stats (e : Fault) : (g.fail e).stats = g.stats := by
  unfold fail; dsimp only; split <;> rfl

@[simp] theorem fail_routines (e : Fault) : (g.fail e).routines = g.routines := by
  unfold fail; dsimp only; split <;> rfl

@[simp] theorem fail_firstErr (e : Fault) : (g.fail e).firstErr = g.firstErr.or (some e) := by
  unfold fail; dsimp only; split <;> rfl

theorem finish_eq (o : Outcome (Option Fault)) :
    g.finish name o = if failed (g.ctx.done, o) then (g.record name o).2.fail (((failure o).getD default).wrap name)
      else (g.record name o).2 := by
  unfold finish
  rw [record_eq]
  dsimp only
  cases h : failure o with
  | none => simp [failed, h]
  | some e =>
    by_cases done : g.ctx.done <;> by_cases cancelled : e.is .canceled <;> simp [clean, failed, h, done, cancelled]

@[simp] theorem statsOf_mk (c : Ctx) (b : Bool) (f : Option Fault) (rs : List Routine) :
    ({ ctx := c, cancelOnError := b, firstErr := f, stats := g.stats, routines := rs } : RoutineGroup).statsOf name =
      g.statsOf name :=
  rfl

@[simp] theorem statsOf_fail (e : Fault) : (g.fail e).statsOf name = g.statsOf name := by
  simp [statsOf]

/-- A restarting routine `i` of the name `name` while its body runs: restarted `m` times,
within its limit, and the counts of its name tell the same, with `j` panics. -/
structure Looping (g : RoutineGroup) (i : Nat) (name : String) (limit : Int) (m j : Nat) : Prop where
  routine : ∃ body, g.routines[i]? = some ⟨name, body, true, some ⟨limit, m, false⟩⟩
  within : 0 < limit → m ≤ limit
  active : (g.statsOf name).active = 1
  started : (g.statsOf name).started = m + 1
  restarts : (g.statsOf name).restarts = m
  panics : (g.statsOf name).panics = j

/-- The same routine waiting out the backoff after its `m`-th restart was counted: no run is
active, and the next one has not started. -/
structure Waiting (g : RoutineGroup) (i : Nat) (name : String) (limit : Int) (m j : Nat) : Prop where
  routine : ∃ body, g.routines[i]? = some ⟨name, body, true, some ⟨limit, m, true⟩⟩
  within : 0 < limit → m ≤ limit
  active : (g.statsOf name).active = 0
  started : (g.statsOf name).started = m
  restarts : (g.statsOf name).restarts = m
  panics : (g.statsOf name).panics = j

/-- A routine `i` of the name `name` that has stopped: its name's counts show `n` runs started,
`r` restarts and `j` panics, and none active. -/
structure Ended (g : RoutineGroup) (i : Nat) (name : String) (n r j : Nat) : Prop where
  stopped : g.routines[i]?.map (·.alive) = some false
  active : (g.statsOf name).active = 0
  started : (g.statsOf name).started = n
  restarts : (g.statsOf name).restarts = r
  panics : (g.statsOf name).panics = j

/-- A run's end that makes the loop try again is a failure other than the cancelled-context
one, with the group live, and such a failure never ends a run cleanly. -/
theorem failed_live {o : Outcome (Option Fault)} (fails : failed (g.ctx.done, o) = true) :
    ∃ e, failure o = some e ∧ g.ctx.done = false ∧ e.is .canceled = false ∧
      ∀ f, (g.note name f).clean (some e) = false := by
  cases h : failure o with
  | none => simp [failed, h] at fails
  | some e =>
    have live : g.ctx.done = false ∧ e.is .canceled = false := by simpa [failed, h] using fails
    exact ⟨e, rfl, live.1, live.2, fun f => by simp [clean, live]⟩

theorem failed_returned_none (done : Bool) : failed (done, .returned none) = false := by
  simp [failed, failure]

theorem gives_up_iff (limit : Int) (m : Nat) :
    (decide (limit > 0) && decide (((m + 1 : Nat) : Int) > limit)) = decide (0 < limit ∧ limit < m + 1) := by
  simp

@[simp] theorem ne_restart (name : String) : ¬name = name ++ ".restart" := fun same => by
  have := congrArg String.length same
  simp at this

@[simp] theorem stopAt_ctx (i : Nat) : (g.stopAt i).ctx = g.ctx := rfl

@[simp] theorem stopAt_firstErr (i : Nat) : (g.stopAt i).firstErr = g.firstErr := rfl

@[simp] theorem statsOf_stopAt (i : Nat) : (g.stopAt i).statsOf name = g.statsOf name := rfl

theorem stopAt_stopped {i : Nat} (present : g.routines[i]?.isSome) :
    (g.stopAt i).routines[i]?.map (·.alive) = some false := by
  obtain ⟨r, found⟩ := Option.isSome_iff_exists.1 present
  simp [stopAt, found]

theorem finish_wrapper : g.finish (name ++ ".restart") (.returned none) =
    g.note (name ++ ".restart") fun s => { s with active := s.active - 1, panics := s.panics + 0 } := by
  simp [finish_eq, failed_returned_none, record_eq, failure, panicked]

variable {i : Nat} {limit : Int} {m j : Nat}

theorem Looping.endRun_again (loop : Looping g i name limit m j) (o : Outcome (Option Fault))
    (fails : failed (g.ctx.done, o) = true) (room : ¬(0 < limit ∧ limit < m + 1)) :
    Waiting (g.endRun i o) i name limit (m + 1) (j + if panicked o then 1 else 0) ∧
      (g.endRun i o).firstErr = g.firstErr := by
  obtain ⟨e, fault, live, -, clean⟩ := @failed_live g name o fails
  obtain ⟨body, found⟩ := loop.routine
  unfold endRun
  simp only [List.getD_eq_getElem?_getD, found, Option.getD_some, record_eq, fault, clean, gives_up_iff,
    decide_eq_false room, Bool.false_eq_true, if_false]
  refine ⟨⟨⟨body, by simp [found]⟩, fun _ => by omega, ?_, ?_, ?_, ?_⟩, ?_⟩ <;>
    simp [loop.active, loop.started, loop.restarts, loop.panics]

theorem Looping.endRun_clean (loop : Looping g i name limit m j) (o : Outcome (Option Fault))
    (clean : failed (g.ctx.done, o) = false) :
    Ended (g.endRun i o) i name (m + 1) m (j + if panicked o then 1 else 0) ∧ (g.endRun i o).firstErr = g.firstErr := by
  obtain ⟨body, found⟩ := loop.routine
  have quits : ∀ f, (g.note name f).clean (failure o) = true := fun f => by
    rw [clean_failure, note_ctx, clean]
    rfl
  unfold endRun
  simp only [List.getD_eq_getElem?_getD, found, Option.getD_some, record_eq]
  cases fault : failure o <;> simp only [fault] at quits <;> simp only [quits, if_true] <;>
    simp only [finish_wrapper] <;>
    refine ⟨⟨stopAt_stopped (by simp [found]), ?_, ?_, ?_, ?_⟩, ?_⟩ <;>
    simp [loop.active, loop.started, loop.restarts, loop.panics]

theorem Looping.endRun_gives_up (loop : Looping g i name limit m j) (o : Outcome (Option Fault))
    (fails : failed (g.ctx.done, o) = true) (spent : 0 < limit ∧ limit < m + 1) :
    Ended (g.endRun i o) i name (m + 1) m (j + if panicked o then 1 else 0) ∧
      (g.endRun i o).firstErr = g.firstErr.or ((failure o).map fun e => (e.wrap name).wrap (name ++ ".restart")) := by
  obtain ⟨e, fault, live, kept, clean⟩ := @failed_live g name o fails
  obtain ⟨body, found⟩ := loop.routine
  have reported : ∀ d, failed (d, .returned (some (e.wrap name))) = !d := fun d => by
    simp only [Fault.is] at kept
    simp [failed, failure, Fault.is, Fault.wrap, kept]
  unfold endRun
  simp only [List.getD_eq_getElem?_getD, found, Option.getD_some, record_eq, fault, clean, gives_up_iff, decide_eq_true spent,
    Bool.false_eq_true, if_false, if_true, finish_eq, reported, note_ctx, live]
  refine ⟨⟨stopAt_stopped (by simp [found]), ?_, ?_, ?_, ?_⟩, ?_⟩ <;>
    simp [failure, loop.active, loop.started, loop.restarts, loop.panics]

theorem Waiting.resume (wait : Waiting g i name limit m j) :
    Looping (g.resume i) i name limit m j ∧ (g.resume i).ctx = g.ctx ∧ (g.resume i).firstErr = g.firstErr := by
  obtain ⟨body, found⟩ := wait.routine
  unfold RoutineGroup.resume
  simp only [List.getD_eq_getElem?_getD, found, Option.getD_some, noteStart]
  refine ⟨⟨⟨body, by simp [found]⟩, wait.within, ?_, ?_, ?_, ?_⟩, ?_, ?_⟩ <;>
    simp [wait.active, wait.started, wait.restarts, wait.panics]

theorem Waiting.quit (wait : Waiting g i name limit m j) :
    Ended (g.quit i) i name m m j ∧ (g.quit i).ctx = g.ctx ∧ (g.quit i).firstErr = g.firstErr := by
  obtain ⟨body, found⟩ := wait.routine
  unfold RoutineGroup.quit
  simp only [List.getD_eq_getElem?_getD, found, Option.getD_some, finish_wrapper]
  refine ⟨⟨stopAt_stopped (by simp [found]), ?_, ?_, ?_, ?_⟩, ?_, ?_⟩ <;>
    simp [wait.active, wait.started, wait.restarts, wait.panics]

theorem Looping.cancel (loop : Looping g i name limit m j) (c : Fault) :
    Looping { g with ctx := g.ctx.cancel c } i name limit m j :=
  ⟨loop.routine, loop.within, loop.active, loop.started, loop.restarts, loop.panics⟩

theorem Waiting.cancel (wait : Waiting g i name limit m j) (c : Fault) :
    Waiting { g with ctx := g.ctx.cancel c } i name limit m j :=
  ⟨wait.routine, wait.within, wait.active, wait.started, wait.restarts, wait.panics⟩

theorem Ended.cancel {n r : Nat} (ended : Ended g i name n r j) (c : Fault) :
    Ended { g with ctx := g.ctx.cancel c } i name n r j :=
  ⟨ended.stopped, ended.active, ended.started, ended.restarts, ended.panics⟩

theorem Looping.routine_getD (loop : Looping g i name limit m j) :
    (g.routines.getD i default).alive = true ∧ (g.routines.getD i default).waiting = false := by
  obtain ⟨body, found⟩ := loop.routine
  simp [List.getD_eq_getElem?_getD, found, Routine.waiting]

theorem Waiting.routine_getD (wait : Waiting g i name limit m j) :
    (g.routines.getD i default).alive = true ∧ (g.routines.getD i default).waiting = true := by
  obtain ⟨body, found⟩ := wait.routine
  simp [List.getD_eq_getElem?_getD, found, Routine.waiting]

theorem Ended.dead {n r : Nat} (ended : Ended g i name n r j) : (g.routines.getD i default).alive = false := by
  obtain ⟨rt, found, dead⟩ : ∃ rt, g.routines[i]? = some rt ∧ rt.alive = false := by simpa using ended.stopped
  simp [List.getD_eq_getElem?_getD, found, dead]

/-- One turn of the restarting routine `i`, beside the ends of its runs so far, each with
whether the group was cancelled then. A run ends only while one runs; a backoff ends by its
timer, or by the group's cancellation once there is one; either may win when both are ready. -/
def feed (i : Nat) (st : RoutineGroup × List (Bool × Outcome (Option Fault))) :
    Turn → RoutineGroup × List (Bool × Outcome (Option Fault))
  | .ends o =>
    let r := st.1.routines.getD i default
    if r.alive && !r.waiting then (st.1.endRun i o, st.2 ++ [(st.1.ctx.done, o)]) else st
  | .cancel c => ({ st.1 with ctx := st.1.ctx.cancel c }, st.2)
  | .timer => if (st.1.routines.getD i default).alive && (st.1.routines.getD i default).waiting then (st.1.resume i, st.2) else st
  | .done =>
    let r := st.1.routines.getD i default
    if r.alive && r.waiting && st.1.ctx.done then (st.1.quit i, st.2) else st

/-- How the loop of a restarting routine `i` stands after the ends `h` of its runs, from the
group `g₀` where its first run had just started. After failures only, within its limit, it
runs again, waits out a backoff, or quit in a backoff on seeing the group cancelled; or it
stopped at the last end, each end before it a failure: cleanly, or giving up at the limit. -/
def Accounts (g₀ : RoutineGroup) (i : Nat) (name : String) (limit : Int)
    (g : RoutineGroup) (h : List (Bool × Outcome (Option Fault))) : Prop :=
  (∀ x ∈ h, failed x) ∧ g.firstErr = g₀.firstErr ∧
      (Looping g i name limit h.length (h.countP (panicked ·.2)) ∨
        Waiting g i name limit h.length (h.countP (panicked ·.2)) ∨
        (0 < limit → h.length ≤ limit) ∧ Ended g i name h.length h.length (h.countP (panicked ·.2))) ∨
    ∃ pre x, h = pre ++ [x] ∧ (∀ y ∈ pre, failed y) ∧ (0 < limit → pre.length ≤ limit) ∧
      Ended g i name h.length pre.length (h.countP (panicked ·.2)) ∧
      (failed x = false ∧ g.firstErr = g₀.firstErr ∨
        failed x = true ∧ 0 < limit ∧ pre.length = limit ∧
          g.firstErr = g₀.firstErr.or ((failure x.2).map fun e => (e.wrap name).wrap (name ++ ".restart")))

section Idle

variable {h : List (Bool × Outcome (Option Fault))}

/-- A run's end is no turn of a routine that stopped or waits out a backoff. -/
theorem feed_ends_idle (idle : (g.routines.getD i default).alive = false ∨ (g.routines.getD i default).waiting = true)
    (o : Outcome (Option Fault)) : feed i (g, h) (.ends o) = (g, h) := by
  rcases idle with idle | idle <;>
    simp only [RoutineGroup.feed, idle, Bool.false_and, Bool.not_true, Bool.and_false, Bool.false_eq_true, if_false]

theorem feed_timer_idle (idle : (g.routines.getD i default).alive = false ∨ (g.routines.getD i default).waiting = false) :
    feed i (g, h) .timer = (g, h) := by
  rcases idle with idle | idle <;>
    simp only [RoutineGroup.feed, idle, Bool.false_and, Bool.and_false, Bool.false_eq_true, if_false]

theorem feed_done_idle
    (idle : (g.routines.getD i default).alive = false ∨ (g.routines.getD i default).waiting = false ∨ g.ctx.done = false) :
    feed i (g, h) .done = (g, h) := by
  rcases idle with idle | idle | idle <;>
    simp only [RoutineGroup.feed, idle, Bool.false_and, Bool.and_false, Bool.false_eq_true, if_false]

end Idle

theorem countP_snoc (h : List (Bool × Outcome (Option Fault))) (x : Bool × Outcome (Option Fault)) :
    (h ++ [x]).countP (panicked ·.2) = h.countP (panicked ·.2) + if panicked x.2 then 1 else 0 := by
  simp [List.countP_append]

variable {g₀ : RoutineGroup}

theorem Looping.feed_ends {h : List (Bool × Outcome (Option Fault))} (loop : Looping g i name limit h.length (h.countP (panicked ·.2)))
    (fails : ∀ x ∈ h, failed x) (first : g.firstErr = g₀.firstErr) (o : Outcome (Option Fault)) :
    Accounts g₀ i name limit (g.endRun i o) (h ++ [(g.ctx.done, o)]) := by
  rw [Accounts, List.length_append, countP_snoc]
  by_cases fail : failed (g.ctx.done, o) = true
  · by_cases spent : 0 < limit ∧ limit < h.length + 1
    · obtain ⟨ended, err⟩ := loop.endRun_gives_up o fail spent
      have last : h.length = limit := by have := loop.within spent.1; omega
      exact .inr ⟨h, _, rfl, fails, loop.within, by simpa using ended, .inr ⟨fail, spent.1, last, err.trans (by rw [first])⟩⟩
    · obtain ⟨wait, err⟩ := loop.endRun_again o fail spent
      refine .inl ⟨fun y mem => ?_, err.trans first, .inr (.inl (by simpa using wait))⟩
      rcases List.mem_append.1 mem with old | new
      · exact fails y old
      · rw [List.mem_singleton.1 new]
        exact fail
  · obtain ⟨ended, err⟩ := loop.endRun_clean o (by simpa using fail)
    exact .inr ⟨h, _, rfl, fails, loop.within, by simpa using ended, .inl ⟨by simpa using fail, err.trans first⟩⟩

theorem Accounts.feed {h : List (Bool × Outcome (Option Fault))} (acc : Accounts g₀ i name limit g h)
    (t : Turn) : Accounts g₀ i name limit (feed i (g, h) t).1 (feed i (g, h) t).2 := by
  rcases acc with ⟨fails, first, loop | wait | ⟨within, ended⟩⟩ | ⟨pre, x, last, fails, within, ended, why⟩
  · obtain ⟨alive, running⟩ := loop.routine_getD
    cases t with
    | ends o =>
      simp only [RoutineGroup.feed, alive, running, Bool.not_false, Bool.and_self, if_true]
      exact loop.feed_ends fails first o
    | cancel c => exact .inl ⟨fails, first, .inl (loop.cancel c)⟩
    | timer => rw [feed_timer_idle (.inr running)]; exact .inl ⟨fails, first, .inl loop⟩
    | done => rw [feed_done_idle (.inr (.inl running))]; exact .inl ⟨fails, first, .inl loop⟩
  · obtain ⟨alive, waiting⟩ := wait.routine_getD
    cases t with
    | ends o => rw [feed_ends_idle (.inr waiting)]; exact .inl ⟨fails, first, .inr (.inl wait)⟩
    | cancel c => exact .inl ⟨fails, first, .inr (.inl (wait.cancel c))⟩
    | timer =>
      obtain ⟨loop, -, kept⟩ := wait.resume
      simp only [RoutineGroup.feed, alive, waiting, Bool.and_self, if_true]
      exact .inl ⟨fails, kept.trans first, .inl loop⟩
    | done =>
      cases done : g.ctx.done
      · rw [feed_done_idle (.inr (.inr done))]
        exact .inl ⟨fails, first, .inr (.inl wait)⟩
      · obtain ⟨ended, -, kept⟩ := wait.quit
        simp only [RoutineGroup.feed, alive, waiting, done, Bool.and_self, if_true]
        exact .inl ⟨fails, kept.trans first, .inr (.inr ⟨wait.within, ended⟩)⟩
  · -- a routine that quit in a backoff takes no more turns but cancellations
    have stopped := ended.dead
    cases t with
    | ends o => rw [feed_ends_idle (.inl stopped)]; exact .inl ⟨fails, first, .inr (.inr ⟨within, ended⟩)⟩
    | cancel c => exact .inl ⟨fails, first, .inr (.inr ⟨within, ended.cancel c⟩)⟩
    | timer => rw [feed_timer_idle (.inl stopped)]; exact .inl ⟨fails, first, .inr (.inr ⟨within, ended⟩)⟩
    | done => rw [feed_done_idle (.inl stopped)]; exact .inl ⟨fails, first, .inr (.inr ⟨within, ended⟩)⟩
  · have stopped := ended.dead
    cases t with
    | ends o => rw [feed_ends_idle (.inl stopped)]; exact .inr ⟨pre, x, last, fails, within, ended, why⟩
    | cancel c => exact .inr ⟨pre, x, last, fails, within, ended.cancel c, why⟩
    | timer => rw [feed_timer_idle (.inl stopped)]; exact .inr ⟨pre, x, last, fails, within, ended, why⟩
    | done => rw [feed_done_idle (.inl stopped)]; exact .inr ⟨pre, x, last, fails, within, ended, why⟩

theorem finish_firstErr (o : Outcome (Option Fault)) :
    (g.finish name o).firstErr =
      if failed (g.ctx.done, o) then g.firstErr.or (some (((failure o).getD default).wrap name)) else g.firstErr := by
  rw [finish_eq]
  split <;> simp [record_eq]

theorem endRun_keeps_firstErr {e : Fault} (first : g.firstErr = some e) (i : Nat) (o : Outcome (Option Fault)) :
    (g.endRun i o).firstErr = some e ∧ (g.quit i).firstErr = some e := by
  constructor
  · unfold endRun
    dsimp only
    repeat' split
    all_goals simp [finish_firstErr, record_eq, first]
  · simp [quit, finish_wrapper, first]

/-- Every run of a restarting routine's loop, from the start of its first run through any
turns: the loop accounts for the ends of its runs as `Accounts` says, with a positive limit
its body runs at most one time more than the limit, and no end of a run, of this routine or
any other, nor a loop quitting, replaces a group's first failure. -/
theorem restart_loop {g : RoutineGroup} {i : Nat} {name : String} {limit : Int}
    (start : Looping g i name limit 0 0) (ts : List Turn) :
    Accounts g i name limit (ts.foldl (feed i) (g, [])).1 (ts.foldl (feed i) (g, [])).2 ∧
      (0 < limit → ((ts.foldl (feed i) (g, [])).1.statsOf name).started ≤ limit + 1) ∧
      ∀ (g' : RoutineGroup) (k : Nat) (o : Outcome (Option Fault)) (e : Fault),
        g'.firstErr = some e → (g'.endRun k o).firstErr = some e ∧ (g'.quit k).firstErr = some e := by
  -- each turn keeps the account, so the whole run does
  have run : ∀ (ts : List Turn) (st : RoutineGroup × List (Bool × Outcome (Option Fault))),
      Accounts g i name limit st.1 st.2 →
        Accounts g i name limit (ts.foldl (feed i) st).1 (ts.foldl (feed i) st).2 := by
    intro ts
    induction ts with
    | nil => exact fun _ acc => acc
    | cons t ts ih => exact fun st acc => ih _ (acc.feed t)
  have acc := run ts (g, []) (.inl ⟨by simp, rfl, .inl start⟩)
  refine ⟨acc, fun pos => ?_, fun g' k o e first => endRun_keeps_firstErr first k o⟩
  rcases acc with ⟨-, -, loop | wait | ⟨within, ended⟩⟩ | ⟨pre, x, last, -, within, ended, -⟩
  · rw [loop.started]
    have := loop.within pos
    omega
  · rw [wait.started]
    have := wait.within pos
    omega
  · rw [ended.started]
    have := within pos
    omega
  · rw [ended.started, last, List.length_append, List.length_singleton]
    have := within pos
    omega

/-- A routine restarted at most three times whose body fails, is restarted, fails again and
sees the group cancelled in its second backoff: it quits with two runs and two restarts. -/
theorem restart_loop_quits_in_backoff :
    let g := ({} : RoutineGroup).goRestart "watch" .stubborn 3 none
    let fault := Outcome.returned (some (.plain "watch failed"))
    let run := [Turn.ends fault, .timer, .ends fault, .cancel .canceled, .done]
    let st := run.foldl (feed 0) (g, [])
    Looping g 0 "watch" 3 0 0 ∧ Accounts g 0 "watch" 3 st.1 st.2 ∧
      (st.1.statsOf "watch").started = 2 ∧ (st.1.statsOf "watch").restarts = 2 ∧
      st.1.routines.map (·.alive) = [false] :=
  have start : Looping (({} : RoutineGroup).goRestart "watch" .stubborn 3 none) 0 "watch" 3 0 0 :=
    ⟨⟨.stubborn, rfl⟩, fun _ => by decide, rfl, rfl, rfl, rfl⟩
  ⟨start, (restart_loop start _).1, by decide⟩

end RoutineGroup

end Foreman

import Mathlib
import Foreman.Worker.Loop
import Foreman.Proofs.Threads.Moves
import Foreman.Proofs.Job.Catalog

/-!
# The ceilings on a worker's jobs

A worker runs at most its settings' `maxJobPerProcess` jobs, and of each catalog job at most
that job's own. A pass polls the queue only below the worker's ceiling, `launchRows` hands out
rows only below it, and the queue hands out only rows of the jobs `Threads.startable` names,
recomputed at each row; a row passed over or refused, or whose thread cannot be made, starts
nothing. `Threads.Ceilings` is the invariant; everything else shrinks what a collection owns
(`Threads.Shrinks`, `Threads.Events.shrinks`). `Worker.step_spec` carries it across a pass,
`Worker.job_ceilings` across any sequence of passes and thread events from a new worker.
-/

namespace Foreman

open Std.Do

set_option autoImplicit false
set_option mvcgen.warning false

/-! ## Collections that only shrink -/

namespace Threads

variable {ts ts' : Threads} {b : Backend}

/-- The collection `ts'` owns some of the threads `ts` owns, with the same rows: what the
events of a collection do. -/
structure Shrinks (ts ts' : Threads) : Prop where
  catalog : ts'.catalog = ts.catalog
  length : ts'.all.length = ts.all.length
  rows : ∀ i, (ts'.get i).row = (ts.get i).row
  live : ts'.live.Sublist ts.live

theorem Shrinks.refl (ts : Threads) : Shrinks ts ts := ⟨rfl, rfl, fun _ => rfl, .refl _⟩

theorem Shrinks.trans {ts'' : Threads} (first : Shrinks ts ts') (second : Shrinks ts' ts'') : Shrinks ts ts'' :=
  ⟨second.catalog.trans first.catalog, second.length.trans first.length,
    fun i => (second.rows i).trans (first.rows i), second.live.trans first.live⟩

theorem shrinks_of_moves (moves : Moves ts ts') (catalog : ts'.catalog = ts.catalog) (live : ts'.live = ts.live) :
    Shrinks ts ts' :=
  ⟨catalog, moves.1, fun i => (moves.2 i).keeps.1, live ▸ .refl _⟩

theorem Event.shrinks {x y : Threads × Backend} (event : Event x y) : Shrinks x.1 y.1 := by
  have moves := event.moves
  cases event with
  | prune ts b => exact ⟨rfl, rfl, fun _ => rfl, List.filter_sublist⟩
  | _ => exact shrinks_of_moves moves rfl rfl

theorem Events.shrinks {x y : Threads × Backend} (events : Events x y) : Shrinks x.1 y.1 := by
  induction events with
  | refl => exact .refl _
  | tail _ event ih => exact ih.trans event.shrinks

theorem Shrinks.countByName_le (shrinks : Shrinks ts ts') (name : String) :
    ts'.countByName name ≤ ts.countByName name := by
  unfold countByName
  rw [List.filter_congr fun i _ => by rw [shrinks.rows i]]
  exact (shrinks.live.filter _).length_le

/-- The ceilings of a collection serving the catalog `cat`, which names each job once: it
owns only threads it prepared, at most `limit` of them, and of each job at most the job's own
ceiling. -/
structure Ceilings (ts : Threads) (cat : Catalog JobType) (limit : Int) : Prop where
  catalog : ts.catalog = cat
  names : cat.names.Nodup
  live_lt : ∀ i ∈ ts.live, i < ts.all.length
  total : (ts.count : Int) ≤ limit
  perJob : ∀ d ∈ cat.defs, (ts.countByName d.config.name : Int) ≤ d.config.maxJobPerProcess

variable {cat : Catalog JobType} {limit : Int}

theorem Shrinks.ceilings (shrinks : Shrinks ts ts') (ceil : ts.Ceilings cat limit) : ts'.Ceilings cat limit where
  catalog := shrinks.catalog.trans ceil.catalog
  names := ceil.names
  live_lt i mem := shrinks.length ▸ ceil.live_lt i (shrinks.live.subset mem)
  total := le_trans (by exact_mod_cast shrinks.live.length_le) ceil.total
  perJob d mem := le_trans (by exact_mod_cast shrinks.countByName_le _) (ceil.perJob d mem)

/-- A job may start one more thread when the catalog has room for it. -/
theorem room_of_startable (names : cat.names.Nodup) (catalog : ts.catalog = cat)
    {job : String} (offered : job ∈ ts.startable) :
    ∀ d ∈ cat.defs, d.config.name = job → (ts.countByName job : Int) + 1 ≤ d.config.maxJobPerProcess := by
  simp only [Threads.startable, catalog, List.mem_map, List.mem_filter, decide_eq_true_eq] at offered
  obtain ⟨d', ⟨mem', room⟩, named⟩ := offered
  intro d mem same
  obtain rfl : d = d' := List.inj_on_of_nodup_map names mem mem' (same.trans named.symm)
  rw [← same]
  omega

theorem prepare_counts {row : QueueRow} {make : Definition JobType → QueueRow → Except Fault JobRun} {i : Nat}
    (ceil : ts.Ceilings cat limit) (prepared : ts.prepare row make = .ok (i, ts')) :
    ts'.Ceilings cat limit ∧ (ts'.get i).row = row ∧ i < ts'.all.length ∧ ts'.live = ts.live ∧
      ∀ name, ts'.countByName name = ts.countByName name := by
  obtain ⟨t, -, named, rfl, rfl⟩ := prepare_fresh prepared
  have same : ∀ name, ({ ts with all := ts.all ++ [t] } : Threads).countByName name = ts.countByName name :=
    fun name => by
      unfold countByName
      rw [List.filter_congr fun j mem => by rw [get_append_of_lt (ceil.live_lt j mem)]]
  refine ⟨⟨ceil.catalog, ceil.names, fun j mem => ?_, ceil.total,
    fun d mem => (same _).symm ▸ ceil.perJob d mem⟩, ?_, ?_, rfl, same⟩
  · have := ceil.live_lt j mem
    simp only [List.length_append, List.length_singleton]
    omega
  · simp [Threads.get, List.getD_eq_getElem?_getD, named]
  · simp

theorem countByName_of_rows (rows : ∀ i, (ts'.get i).row = (ts.get i).row) (live : ts'.live = ts.live)
    (name : String) : ts'.countByName name = ts.countByName name := by
  unfold countByName
  rw [live, List.filter_congr fun i _ => by rw [rows i]]

theorem takeRow_shrinks (i : Nat) (db : Option Nat) (ctx : Ctx) (now : Instant) :
    Shrinks ts ((ts.takeRow i db ctx now).run b).1.2 ∧ ((ts.takeRow i db ctx now).run b).1.2.live = ts.live := by
  have same : ((ts.takeRow i db ctx now).run b).1.2.catalog = ts.catalog ∧
      ((ts.takeRow i db ctx now).run b).1.2.live = ts.live :=
    ⟨rfl, rfl⟩
  exact ⟨shrinks_of_moves (moves_takeRow i db ctx now) same.1 same.2, same.2⟩

theorem Ceilings.start (ceil : ts.Ceilings cat limit) {i : Nat} (inRange : i < ts.all.length)
    (below : (ts.count : Int) < limit)
    (room : ∀ d ∈ cat.defs, d.config.name = (ts.get i).row.job →
      (ts.countByName d.config.name : Int) + 1 ≤ d.config.maxJobPerProcess)
    (db : Option Nat) (now : Instant) (b : Backend) : ((ts.start i db now).run b).1.Ceilings cat limit := by
  have moves : Moves ts ((ts.start i db now).run b).1 := moves_start i db now
  have live : ((ts.start i db now).run b).1.live = ts.live ++ [i] := rfl
  have counted : ∀ name, ((ts.start i db now).run b).1.countByName name =
      ts.countByName name + if (ts.get i).row.job == name then 1 else 0 := fun name => by
    unfold countByName
    rw [live, List.filter_congr fun j _ => by rw [(moves.2 j).keeps.1]]
    simp only [List.filter_append, List.length_append, List.filter_singleton]
    cases (ts.get i).row.job == name <;> rfl
  refine ⟨ceil.catalog, ceil.names, fun j mem => ?_, ?_, fun d mem => ?_⟩
  · rw [moves.1]
    rw [live, List.mem_append, List.mem_singleton] at mem
    rcases mem with old | rfl
    · exact ceil.live_lt j old
    · exact inRange
  · simp only [count, live, List.length_append, List.length_singleton, Nat.cast_add, Nat.cast_one]
    simp only [count] at below
    omega
  · rw [counted]
    by_cases same : d.config.name = (ts.get i).row.job
    · have := room d mem same
      simp only [same, beq_self_eq_true, ↓reduceIte, Nat.cast_add, Nat.cast_one]
      rw [← same]
      exact this
    · have := ceil.perJob d mem
      simp only [beq_iff_eq, Ne.symm same, ↓reduceIte, Nat.add_zero]
      exact this

theorem launch_ceilings {row : QueueRow} {make : Definition JobType → QueueRow → Except Fault JobRun} {i : Nat}
    (ceil : ts.Ceilings cat limit) (prepared : ts.prepare row make = .ok (i, ts'))
    (offered : row.job ∈ ts.startable) (below : (ts.count : Int) < limit)
    (db : Option Nat) (ctx : Ctx) (now : Instant) (b : Backend) :
    ((ts'.takeRow i db ctx now).run b).1.2.Ceilings cat limit ∧
      ∀ b', ((((ts'.takeRow i db ctx now).run b).1.2.start i db now).run b').1.Ceilings cat limit := by
  obtain ⟨prepCeil, named, inRange, prepLive, sameCounts⟩ := prepare_counts ceil prepared
  have checked : ts'.Shrinks ((ts'.takeRow i db ctx now).run b).1.2 ∧
      ((ts'.takeRow i db ctx now).run b).1.2.live = ts'.live :=
    takeRow_shrinks i db ctx now
  obtain ⟨shrinks, sameLive⟩ := checked
  refine ⟨shrinks.ceilings prepCeil,
    fun b' => Ceilings.start (shrinks.ceilings prepCeil) (shrinks.length ▸ inRange) ?_ ?_ db now b'⟩
  · simp only [count, sameLive, prepLive] at below ⊢
    exact below
  · -- the queue offered the row because its job had room
    intro d mem same
    have counts := countByName_of_rows shrinks.rows sameLive d.config.name
    rw [shrinks.rows, named] at same
    rw [counts, sameCounts, same]
    exact room_of_startable ceil.names ceil.catalog offered d mem same

end Threads

theorem Queue.pop_offered {q q' : Queue} {startable : List String} {running : String → Int} {row : QueueRow}
    (popped : q.pop startable running = (some row, q')) : row.job ∈ startable := by
  unfold Queue.pop at popped
  dsimp only at popped
  split at popped
  · cases popped
  · rename_i r rest sorted
    cases popped
    have mem : row ∈ q.rows.filter fun r => startable.contains r.job :=
      (List.mergeSort_perm _ _).subset (sorted ▸ List.mem_cons_self)
    simpa using (List.mem_filter.mp mem).2

/-! ## A pass of the loop -/

namespace Worker

variable {cat : Catalog JobType}

theorem launchRows_ceilings (ctx : Ctx) (db : Option Nat) (now : Instant) (fuel : Nat) :
    ∀ (w : Worker) (b : Backend),
    w.threads.Ceilings cat w.settings.maxJobPerProcess →
      ((launchRows ctx db now fuel w).run b).1.threads.Ceilings cat w.settings.maxJobPerProcess ∧
        ((launchRows ctx db now fuel w).run b).1.settings = w.settings := by
  induction fuel with
  | zero => intro w b ceil; exact ⟨ceil, rfl⟩
  | succ fuel ih =>
      intro w b ceil
      simp only [launchRows]
      split
      · exact ⟨ceil, rfl⟩
      · rename_i below
        split
        · exact ⟨ceil, rfl⟩
        · rename_i row q popped
          have offered := Queue.pop_offered popped
          split
          · exact ih _ b ceil
          · split
            · exact ih _ b ceil
            · rename_i i ts prepared
              have launched := Threads.launch_ceilings ceil prepared offered (not_le.mp below) db ctx now b
              rw [BackendM.run_bind]
              generalize (ts.takeRow i db ctx now).run b = r at launched ⊢
              obtain ⟨⟨taken, ts₂⟩, b₂⟩ := r
              dsimp only at launched ⊢
              cases taken
              · exact ih _ b₂ launched.1
              · rw [if_pos rfl, BackendM.run_bind]
                exact ih _ _ (launched.2 b₂)

theorem startJobs_ceilings (ctx : Ctx) (db : Option Nat) (now : Instant) (w : Worker) (b : Backend)
    (ceil : w.threads.Ceilings cat w.settings.maxJobPerProcess) :
    ((w.startJobs ctx db now).run b).1.2.threads.Ceilings cat w.settings.maxJobPerProcess ∧
      ((w.startJobs ctx db now).run b).1.2.settings = w.settings := by
  unfold startJobs
  dsimp only
  split
  · exact ⟨ceil, rfl⟩
  · simp only [BackendM.run_bind]
    generalize (w.queue.query _ ctx _ _).run _ = polled
    obtain ⟨⟨err, q⟩, b₂⟩ := polled
    cases err with
    | some e => exact ⟨ceil, rfl⟩
    | none =>
        rw [BackendM.run_bind]
        exact launchRows_ceilings ctx db now _ { w with queue := q } b₂ ceil

@[spec] theorem connect_spec (w : Worker) (st : WorkerLoop) :
    ⦃⌜True⌝⦄ w.connect st ⦃⇓ r => ⌜r.2.1.threads = w.threads ∧ r.2.1.settings = w.settings⌝⦄ := by
  mvcgen [Worker.connect, Backend.openHandle, Backend.retire]

@[spec] theorem loadMode_spec (w : Worker) (ctx : Ctx) :
    ⦃⌜True⌝⦄ w.loadMode ctx ⦃⇓ r => ⌜r.2.threads = w.threads ∧ r.2.settings = w.settings⌝⦄ := by
  intro b _
  exact ⟨rfl, rfl⟩

@[spec] theorem startJobs_spec (w : Worker) (ctx : Ctx) (db : Option Nat) (now : Instant) :
    ⦃⌜w.threads.Ceilings cat w.settings.maxJobPerProcess⌝⦄ w.startJobs ctx db now
    ⦃⇓ r => ⌜r.2.threads.Ceilings cat w.settings.maxJobPerProcess ∧ r.2.settings = w.settings⌝⦄ := by
  intro b ceil
  exact startJobs_ceilings ctx db now w b ceil

end Worker

@[spec] theorem Threads.tick_spec (ts : Threads) (now : Instant) :
    ⦃⌜True⌝⦄ ts.tick now ⦃⇓ ts' => ⌜ts.Shrinks ts'⌝⦄ := by
  intro b _
  exact (Threads.events_tick (b := b) now).shrinks

@[spec] theorem CleanupJob.tick_spec (c : CleanupJob) (db : Option Nat) (now : Instant) :
    ⦃⌜True⌝⦄ c.tick db now ⦃⇓ _ => ⌜True⌝⦄ := by
  intro b _
  trivial

namespace Worker

variable {cat : Catalog JobType}

theorem step_spec (w : Worker) (st : WorkerLoop) (ctx : Ctx) (now : Instant) :
    ⦃⌜w.threads.Ceilings cat w.settings.maxJobPerProcess⌝⦄ w.step st ctx now
    ⦃⇓ r => ⌜r.2.1.threads.Ceilings cat w.settings.maxJobPerProcess ∧ r.2.1.settings = w.settings⌝⦄ := by
  mvcgen [Worker.step]
  -- the calls' specs chain up; the threads of the tick are those before it, shrunk
  all_goals grind [Threads.Shrinks.ceilings]

/-! ## Runs of a worker -/

/-- What can happen to a worker between two looks at it: a pass of its loop, under any loop
state, context, clock and database; its jobs and clean-up returning; and any events of its
threads (a cancel, a resignal, a task returning, a prune). -/
inductive Turn : Worker → Worker → Prop
  | pass (w : Worker) (st : WorkerLoop) (ctx : Ctx) (now : Instant) (b : Backend) :
      Turn w ((w.step st ctx now).run b).1.2.1
  | settle (w : Worker) (now : Instant) (b : Backend) : Turn w ((w.settle now).run b).1
  | events (w : Worker) {ts : Threads} {b b' : Backend} :
      Threads.Events (w.threads, b) (ts, b') → Turn w { w with threads := ts }

theorem Turn.ceilings {w w' : Worker} (turn : Turn w w')
    (ceil : w.threads.Ceilings cat w.settings.maxJobPerProcess) :
    w'.threads.Ceilings cat w.settings.maxJobPerProcess ∧ w'.settings = w.settings := by
  cases turn with
  | pass st ctx now b => exact step_spec w st ctx now b ceil
  | settle now b =>
      have settled : ((w.settle now).run b).1.threads = (w.threads.settle.run b).1 := rfl
      exact ⟨settled ▸ (Threads.events_settle (b := b)).shrinks.ceilings ceil, rfl⟩
  | events events => exact ⟨events.shrinks.ceilings ceil, rfl⟩

theorem Turns.ceilings {w w' : Worker} (turns : Relation.ReflTransGen Turn w w')
    (ceil : w.threads.Ceilings cat w.settings.maxJobPerProcess) :
    w'.threads.Ceilings cat w.settings.maxJobPerProcess ∧ w'.settings = w.settings := by
  induction turns with
  | refl => exact ⟨ceil, rfl⟩
  | tail _ turn ih =>
      obtain ⟨ceil', settled⟩ := ih
      obtain ⟨kept, same⟩ := turn.ceilings (settled ▸ ceil')
      exact ⟨settled ▸ kept, same.trans settled⟩

theorem new_ceilings {reg : Registry JobType} {s : Settings} {cat : Catalog JobType}
    (built : Catalog.ofSettings reg s = .ok cat) (total : 0 ≤ s.maxJobPerProcess)
    (perJob : ∀ d ∈ cat.defs, 0 ≤ d.config.maxJobPerProcess) (pid : Int) (info : CleanupInfo)
    (terminatingTime : Instant) (source : ModeSource) (dialer : Dialer) (dialect : Dialect)
    (workspaceSchema : String) :
    (Worker.new s cat pid info terminatingTime source dialer dialect workspaceSchema).threads.Ceilings cat
      s.maxJobPerProcess :=
  ⟨rfl, (Catalog.build_bound built).1, (fun _ owned => nomatch owned), total, perJob⟩

/-- Whatever its passes connect to, read and poll, and however its jobs end, a worker runs
at most its settings' `maxJobPerProcess` jobs at once, and of each catalog job at most that
job's own, each of these being at least one. -/
theorem job_ceilings {reg : Registry JobType} {s : Settings} {cat : Catalog JobType}
    (built : Catalog.ofSettings reg s = .ok cat) (total : 1 ≤ s.maxJobPerProcess)
    (perJob : ∀ j ∈ s.jobs, 1 ≤ j.maxJobPerProcess) (pid : Int) (info : CleanupInfo)
    (terminatingTime : Instant) (source : ModeSource) (dialer : Dialer) (dialect : Dialect)
    (workspaceSchema : String) {w : Worker}
    (turns : Relation.ReflTransGen Turn
      (Worker.new s cat pid info terminatingTime source dialer dialect workspaceSchema) w) :
    (w.threads.count : Int) ≤ s.maxJobPerProcess ∧
      ∀ d ∈ cat.defs, (w.threads.countByName d.config.name : Int) ≤ d.config.maxJobPerProcess := by
  have positive := Catalog.ofSettings_ceilings built perJob
  have start := new_ceilings built (by omega) (fun d mem => by have := positive d mem; omega) pid info
    terminatingTime source dialer dialect workspaceSchema
  have ceil := (Turns.ceilings turns start).1
  exact ⟨ceil.total, ceil.perJob⟩

/-- One job that may run once, in a worker that may run two, after a first pass. -/
theorem job_ceilings_after_a_pass :
    ((((Worker.new ⟨default, default, 1, 1, 1, 1, 1, 1, 1, 2, 1, 1, "", .every 1, "",
        [⟨"sync", "sync", 1, 1, none⟩]⟩ ⟨[⟨⟨"sync", "sync", 1, 1, none⟩, .test⟩], [("sync", 0)]⟩ 1 {} .zero (.table "") {}
          Dialect.sqlite "").step default default .zero).run {}).1.2.1.threads.countByName "sync" : Int) ≤ 1 :=
  (job_ceilings
    (show Catalog.ofSettings ⟨[("sync", .test)]⟩ _ = .ok ⟨[⟨⟨"sync", "sync", 1, 1, none⟩, .test⟩], [("sync", 0)]⟩ from rfl)
    (by decide) (by simp) 1 {} .zero (.table "") {} Dialect.sqlite ""
    (.single (.pass _ default default .zero {}))).2 _ List.mem_cons_self

end Worker

end Foreman

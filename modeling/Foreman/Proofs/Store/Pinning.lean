import Foreman.Proofs.Cleanup.Pins
import Foreman.Worker.Basic

/-!
# Handles are closed only once nobody holds them

Job threads and the clean-up duty hold the handles they run on (`Holders`), which change by
thread events, clean-up work, retiring (on reconnecting), opening a handle, and other database
work, which leaves them alone (`Holders.Step`); threads run and sweeps start only on existing
unretired handles. Along any interleaving from a new worker (`handle_pins`):

* a thread holds at most two pins, none once its tasks returned;
* a handle counts exactly the pins on it, never below zero;
* a handle held by a live execution, a kept pin, a live cancellation or a sweep is open;
* a handle closes as soon as it is retired and unheld, and stays so.

The invariant is `Holders.Inv`: well-formed threads, and handles agreeing with the pins
(`Backend.Agrees`).
-/

namespace Foreman

set_option autoImplicit false

/-- The holders of database handles in a worker: its job threads and its clean-up duty, with
the backend whose handles they hold. -/
structure Holders where
  threads : Threads
  clean : CleanupJob
  backend : Backend

namespace Holders

def ofWorker (w : Worker) (b : Backend) : Holders := ⟨w.threads, w.clean, b⟩

def retired (s : Holders) (k : Nat) : Bool := (s.backend.handles.getD k default).retired

def pinsOn (s : Holders) (k : Nat) : Nat := s.threads.pinsOn k + s.clean.pinsOn k

/-- One step of the holders. A thread is run, and a sweep is started, only on a handle that
exists and was not retired. -/
inductive Step : Holders → Holders → Prop
  | events (s : Holders) {ts : Threads} {b : Backend} :
      Threads.Events (s.threads, s.backend) (ts, b) → Step s { s with threads := ts, backend := b }
  | prepare (s : Holders) (row : QueueRow) (make : Definition JobType → QueueRow → Except Fault JobRun)
      {i : Nat} {ts : Threads} : s.threads.prepare row make = .ok (i, ts) → Step s { s with threads := ts }
  | takeRow (s : Holders) (i : Nat) (db : Option Nat) (ctx : Ctx) (now : Instant) :
      Step s { s with threads := ((s.threads.takeRow i db ctx now).run s.backend).1.2,
                      backend := ((s.threads.takeRow i db ctx now).run s.backend).2 }
  | start (s : Holders) (i : Nat) (db : Option Nat) (now : Instant) :
      i < s.threads.all.length → s.backend.Usable s.retired db →
      Step s { s with threads := ((s.threads.start i db now).run s.backend).1,
                      backend := ((s.threads.start i db now).run s.backend).2 }
  | cleanTick (s : Holders) (db : Option Nat) (now : Instant) : s.backend.Usable s.retired db →
      Step s { s with clean := ((s.clean.tick db now).run s.backend).1,
                      backend := ((s.clean.tick db now).run s.backend).2 }
  | cleanSettle (s : Holders) (now : Instant) :
      Step s { s with clean := ((s.clean.settle now).run s.backend).1,
                      backend := ((s.clean.settle now).run s.backend).2 }
  | cleanRelease (s : Holders) (name : Option String) (o : Outcome (Option Fault)) (now : Instant) :
      Step s { s with clean := ((s.clean.release name o now).run s.backend).1,
                      backend := ((s.clean.release name o now).run s.backend).2 }
  | cleanTerminate (s : Holders) (now : Instant) (release : Option (Outcome (Option Fault))) :
      Step s { s with clean := ((s.clean.terminate now release).run s.backend).1.2,
                      backend := ((s.clean.terminate now release).run s.backend).2 }
  | retire (s : Holders) (k : Nat) : k < s.backend.handles.length →
      Step s { s with backend := ((Backend.retire (some k)).run s.backend).2 }
  | openHandle (s : Holders) (d : Dialect) (pattern : String) :
      Step s { s with backend := ((Backend.openHandle (Handle.new d pattern)).run s.backend).2 }
  | work (s : Holders) (b : Backend) : b.handles = s.backend.handles → Step s { s with backend := b }

/-- What every state reached from a new worker satisfies: every thread is well formed, and
every handle counts the pins held on it, and is closed exactly when it is retired and nobody
holds it. -/
structure Inv (s : Holders) : Prop where
  wf : s.threads.Wf
  agrees : s.backend.Agrees s.pinsOn s.retired

variable {s s' : Holders}

theorem Inv.threads_agree (inv : s.Inv) :
    s.backend.Agrees (fun k => s.clean.pinsOn k + s.threads.pinsOn k) s.retired :=
  inv.agrees.congr fun _ => Nat.add_comm _ _

/-- The invariant of holders whose handles count their pins, whatever retired flags they
were shown to agree with. -/
theorem inv_of {r : Nat → Bool} (wf : s.threads.Wf) (agrees : s.backend.Agrees s.pinsOn r) : s.Inv :=
  ⟨wf, agrees.self⟩

theorem Step.inv (step : Step s s') (inv : s.Inv) : s'.Inv := by
  cases step with
  | events events =>
      obtain ⟨wf, agrees, -⟩ := events.agrees inv.wf inv.threads_agree
      exact inv_of wf (agrees.congr fun _ => Nat.add_comm _ _)
  | prepare row make prepared =>
      refine inv_of (Threads.wf_prepare prepared inv.wf) (inv.agrees.congr fun k => ?_)
      simp only [pinsOn, Threads.pinsOn_prepare prepared k]
  | takeRow i db ctx now =>
      refine inv_of ((Threads.moves_takeRow i db ctx now).wf inv.wf)
        ((inv.agrees.of_handles (Threads.takeRow_handles i db ctx now)).congr fun k => ?_)
      simp only [pinsOn, Threads.pinsOn_takeRow i db ctx now k]
  | start i db now inRange usable =>
      exact inv_of ((Threads.moves_start i db now).wf inv.wf)
        ((Threads.agrees_start inv.wf inRange usable inv.threads_agree).congr fun _ => Nat.add_comm _ _)
  | cleanTick db now usable =>
      exact inv_of inv.wf (CleanupJob.tick_agrees now s.clean db s.backend usable inv.agrees).1
  | cleanSettle now =>
      exact inv_of inv.wf ((CleanupJob.settle_drops now s.clean s.backend).1 _ _ inv.agrees)
  | cleanRelease name o now =>
      exact inv_of inv.wf ((CleanupJob.release_drops now s.clean name o s.backend).1 _ _ inv.agrees)
  | cleanTerminate now release =>
      exact inv_of inv.wf ((CleanupJob.terminate_drops now s.clean release s.backend).1 _ _ inv.agrees)
  | retire k exists_ => exact inv_of inv.wf (inv.agrees.retire exists_)
  | openHandle d pattern => exact inv_of inv.wf (inv.agrees.openHandle (Handle.agrees_new d pattern))
  | work b same => exact inv_of inv.wf (inv.agrees.of_handles same)

theorem Step.retired_pins (step : Step s s') (inv : s.Inv) {k : Nat} (retired : s.retired k = true) :
    s'.retired k = true ∧ s'.pinsOn k ≤ s.pinsOn k := by
  cases step with
  | events events =>
      obtain ⟨-, agrees, fewer⟩ := events.agrees inv.wf inv.threads_agree
      refine ⟨(agrees.retired_eq k).trans retired, ?_⟩
      have := fewer k
      simp only [pinsOn] at this ⊢
      omega
  | prepare row make prepared =>
      refine ⟨retired, Nat.le_of_eq ?_⟩
      simp only [pinsOn, Threads.pinsOn_prepare prepared k]
  | takeRow i db ctx now =>
      refine ⟨?_, Nat.le_of_eq ?_⟩
      · simp only [Holders.retired, Threads.takeRow_handles i db ctx now]
        exact retired
      · simp only [pinsOn, Threads.pinsOn_takeRow i db ctx now k]
  | start i db now inRange usable =>
      refine ⟨((Threads.agrees_start inv.wf inRange usable inv.threads_agree).retired_eq k).trans retired, ?_⟩
      have more := Threads.pinsOn_start_le (b := s.backend) inv.wf i db now k
      rw [onHandle_of_usable usable retired] at more
      simp only [pinsOn]
      omega
  | cleanTick db now usable =>
      obtain ⟨agrees, more⟩ := CleanupJob.tick_agrees now s.clean db s.backend usable inv.agrees
      refine ⟨(agrees.retired_eq k).trans retired, ?_⟩
      have := more k
      rw [onHandle_of_usable usable retired] at this
      simp only [pinsOn]
      omega
  | cleanSettle now =>
      obtain ⟨agrees, fewer⟩ := CleanupJob.settle_drops now s.clean s.backend
      refine ⟨((agrees _ _ inv.agrees).retired_eq k).trans retired, ?_⟩
      have := fewer k
      simp only [pinsOn]
      omega
  | cleanRelease name o now =>
      obtain ⟨agrees, fewer⟩ := CleanupJob.release_drops now s.clean name o s.backend
      refine ⟨((agrees _ _ inv.agrees).retired_eq k).trans retired, ?_⟩
      have := fewer k
      simp only [pinsOn]
      omega
  | cleanTerminate now release =>
      obtain ⟨agrees, fewer⟩ := CleanupJob.terminate_drops now s.clean release s.backend
      refine ⟨((agrees _ _ inv.agrees).retired_eq k).trans retired, ?_⟩
      have := fewer k
      dsimp only at this
      simp only [pinsOn]
      omega
  | retire i exists_ =>
      refine ⟨?_, Nat.le_refl _⟩
      rw [Holders.retired, (inv.agrees.retire exists_).retired_eq k]
      simp only [retired, Bool.true_or]
  | openHandle d pattern =>
      exact ⟨((inv.agrees.openHandle (Handle.agrees_new d pattern)).retired_eq k).trans retired, Nat.le_refl _⟩
  | work b same =>
      refine ⟨?_, Nat.le_refl _⟩
      simp only [Holders.retired, same]
      exact retired

/-! ## Runs -/

theorem reaches_inv (run : Relation.ReflTransGen Step s s') (inv : s.Inv) : s'.Inv := by
  induction run with
  | refl => exact inv
  | tail _ step ih => exact step.inv ih

theorem reaches_retired_pins (run : Relation.ReflTransGen Step s s') (inv : s.Inv) {k : Nat}
    (retired : s.retired k = true) : s'.retired k = true ∧ s'.pinsOn k ≤ s.pinsOn k := by
  induction run with
  | refl => exact ⟨retired, Nat.le_refl _⟩
  | tail first step ih =>
      obtain ⟨stillRetired, fewer⟩ := ih
      obtain ⟨stillRetired', fewer'⟩ := step.retired_pins (reaches_inv first inv) stillRetired
      exact ⟨stillRetired', fewer'.trans fewer⟩

theorem Inv.open_of_held (inv : s.Inv) {k : Nat} (held : 0 < s.pinsOn k) :
    (s.backend.handles.getD k default).closed = false := by
  rw [(inv.agrees k).closed]
  simp only [Bool.and_eq_false_iff, beq_eq_false_iff_ne]
  exact .inr (Nat.pos_iff_ne_zero.mp held)

theorem Inv.stays_closed (inv : s.Inv) (run : Relation.ReflTransGen Step s s') {k : Nat}
    (closed : (s.backend.handles.getD k default).closed = true) :
    (s'.backend.handles.getD k default).closed = true ∧ s'.pinsOn k = 0 := by
  rw [(inv.agrees k).closed, Bool.and_eq_true, beq_iff_eq] at closed
  obtain ⟨retired, unheld⟩ := closed
  obtain ⟨retired', fewer⟩ := reaches_retired_pins run inv retired
  have unheld' : s'.pinsOn k = 0 := by omega
  refine ⟨?_, unheld'⟩
  rw [((reaches_inv run inv).agrees k).closed, unheld']
  simp only [retired', beq_self_eq_true, Bool.and_self]

/-! ## From a new worker -/

/-- The holders of a new worker: a new collection of threads, a clean-up duty with no sweep,
and a backend on which no handle was opened yet. -/
def new (cat : Catalog JobType) (cancelTimeout pollInterval : Int) (schedule : Schedule) (pid : Int)
    (info : CleanupInfo) (db : ScriptedDb) : Holders :=
  ⟨Threads.new cat cancelTimeout pollInterval, { catalog := cat, schedule := schedule, pid := pid, info := info },
    { db := db }⟩

theorem ofWorker_new (st : Settings) (cat : Catalog JobType) (pid : Int) (info : CleanupInfo)
    (terminatingTime : Instant) (source : ModeSource) (dialer : Dialer) (dialect : Dialect) (workspaceSchema : String) (db : ScriptedDb) :
    ofWorker (Worker.new st cat pid info terminatingTime source dialer dialect workspaceSchema) { db := db } =
      new cat st.jobCancelTimeout st.watchInterval st.cleanUpSchedule pid info db := rfl

theorem inv_new (cat : Catalog JobType) (cancelTimeout pollInterval : Int) (schedule : Schedule) (pid : Int)
    (info : CleanupInfo) (db : ScriptedDb) : (new cat cancelTimeout pollInterval schedule pid info db).Inv := by
  refine ⟨fun i => (Threads.new_fresh cat cancelTimeout pollInterval i).wf, fun k => ?_⟩
  have unheld : (new cat cancelTimeout pollInterval schedule pid info db).pinsOn k = 0 := rfl
  rw [unheld]
  exact Handle.agrees_default

/-- What pinning guarantees of holders `s`, and of holders `s'` some steps later: a thread
holds at most two pins, none once its tasks returned; a handle counts exactly its pins; one
held by a live task, a kept pin or a sweep is open; a handle is closed exactly when retired and
unheld, and stays so. -/
structure Pinned (s s' : Holders) : Prop where
  holds : ∀ i, (s.threads.get i).holds ≤ 2 ∧ ((s.threads.get i).erasable = true → (s.threads.get i).holds = 0)
  refs : ∀ k, (s.backend.handles.getD k default).refs = s.pinsOn k
  thread_open : ∀ i k, (s.threads.get i).db = some k → 0 < (s.threads.get i).holds →
    (s.backend.handles.getD k default).closed = false
  sweep_open : ∀ (w : Sweep) (k : Nat), s.clean.sweep = some w → w.result = none → w.db = some k →
    (s.backend.handles.getD k default).closed = false
  closed : ∀ k, (s.backend.handles.getD k default).closed =
    ((s.backend.handles.getD k default).retired && s.pinsOn k == 0)
  stays_closed : ∀ k, (s.backend.handles.getD k default).closed = true →
    (s'.backend.handles.getD k default).closed = true ∧ s'.pinsOn k = 0

/-- Handle pinning along any interleaving of thread events and runs, clean-up work,
retirements, new handles and other database work from a new worker. -/
theorem handle_pins {cat : Catalog JobType} {cancelTimeout pollInterval : Int} {schedule : Schedule} {pid : Int}
    {info : CleanupInfo} {db : ScriptedDb} {s s' : Holders}
    (reach : Relation.ReflTransGen Step (new cat cancelTimeout pollInterval schedule pid info db) s)
    (run : Relation.ReflTransGen Step s s') : Pinned s s' := by
  have inv := reaches_inv reach (inv_new cat cancelTimeout pollInterval schedule pid info db)
  refine ⟨fun i => ⟨(inv.wf i).holds_le_two, (inv.wf i).holds_of_erasable⟩, fun k => (inv.agrees k).refs,
    fun i k onK held => inv.open_of_held ?_, fun w k sweep running onK => inv.open_of_held ?_,
    fun k => (inv.agrees k).closed, fun k closed => inv.stays_closed run closed⟩
  · -- the thread's pins are among those held
    have mine : (s.threads.get i).pinsOn k = (s.threads.get i).holds := by
      simp [Thread.pinsOn, onHandle, onK]
    have := Threads.pinsOn_get_le s.threads i k
    simp only [pinsOn]
    omega
  · have mine : s.clean.pinsOn k = 1 := by
      simp [CleanupJob.pinsOn, sweep, running, onHandle, onK]
    simp only [pinsOn]
    omega

end Holders

end Foreman

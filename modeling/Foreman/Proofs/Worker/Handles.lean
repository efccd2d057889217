import Foreman.Proofs.Store.Pinning
import Foreman.Proofs.Worker.Termination
import Foreman.Worker.Run

/-!
# A worker's run moves the holders of its handles

What a worker's run does to its threads, its clean-up duty and its backend is a run of steps of
their holders (`Holders.Step`), so handle pinning (`Holders.handle_pins`) holds along every run
(`RunState.handles_over_run`, and `Worker.run_moves` for the loop as one function). A pass
connects by retiring the connection there was and opening the next (`Worker.connect_moves`);
the rest of a pass, and all that goes on around the run, only pins, lets go and queries
(`Backend.Alike`, `Holders.Works`). So besides the loop's connection, which exists and is not
retired, every handle is retired (`Backend.Current`), and once the run returned every handle
is: each closes as soon as its last holder lets it go.
-/

namespace Foreman

open Std.Do

set_option autoImplicit false
set_option mvcgen.warning false

/-! ## Reads that leave the handles alone -/

section Frames

variable (H : List Handle) (ctx : Ctx) (h : Handle)

@[spec] theorem Queue.readyQueries_frame (cat : Catalog JobType) (names : List String) :
    ⦃fun b => ⌜b.handles = H⌝⦄ Queue.readyQueries cat ctx h names ⦃⇓ _ b => ⌜b.handles = H⌝⦄ := by
  induction names with
  | nil => mvcgen [Queue.readyQueries]
  | cons name rest ih => mvcgen [Queue.readyQueries, ih] <;> simp_all

@[spec] theorem Queue.query_frame (q : Queue) (cat : Catalog JobType) (startable : List String) :
    ⦃fun b => ⌜b.handles = H⌝⦄ q.query cat ctx h startable ⦃⇓ _ b => ⌜b.handles = H⌝⦄ := by
  mvcgen [Queue.query, Queue.statement] <;> simp_all

@[spec] theorem ModeSource.loadNth_frame (s : ModeSource) (n : Nat) :
    ⦃fun b => ⌜b.handles = H⌝⦄ s.loadNth n ctx ⦃⇓ _ b => ⌜b.handles = H⌝⦄ := by
  cases s <;> mvcgen [ModeSource.loadNth] <;> simp_all

end Frames

theorem Queue.query_handles (q : Queue) (cat : Catalog JobType) (ctx : Ctx) (h : Handle) (startable : List String)
    (b : Backend) : ((q.query cat ctx h startable).run b).2.handles = b.handles :=
  handles_run (fun H => Queue.query_frame H ctx h q cat startable) b

theorem ModeSource.loadNth_handles (s : ModeSource) (n : Nat) (ctx : Ctx) (b : Backend) :
    ((s.loadNth n ctx).run b).2.handles = b.handles :=
  handles_run (fun H => ModeSource.loadNth_frame H ctx s n) b

/-! ## Work that keeps the handles -/

namespace Backend

/-- Two backends with as many handles, retired alike: what work leaves that only pins, lets
go and queries. -/
def Alike (b b' : Backend) : Prop :=
  b'.handles.length = b.handles.length ∧
    ∀ k, (b'.handles.getD k default).retired = (b.handles.getD k default).retired

variable {b₁ b₂ b₃ : Backend}

theorem Alike.refl (b : Backend) : Alike b b := ⟨rfl, fun _ => rfl⟩

theorem Alike.trans (first : Alike b₁ b₂) (second : Alike b₂ b₃) : Alike b₁ b₃ :=
  ⟨second.1.trans first.1, fun k => (second.2 k).trans (first.2 k)⟩

theorem Alike.of_handles (same : b₂.handles = b₁.handles) : Alike b₁ b₂ := by
  rw [Alike, same]
  exact ⟨rfl, fun _ => rfl⟩

@[simp] theorem Handle.retired_acquire (h : Handle) : h.acquire.retired = h.retired := rfl

@[simp] theorem Handle.retired_release (h : Handle) : h.release.retired = h.retired := by
  unfold Handle.release
  dsimp only
  split <;> rfl

@[simp] theorem pin_length (db : Option Nat) (b : Backend) :
    ((pin db).run b).2.handles.length = b.handles.length := by
  cases db <;> simp

@[simp] theorem unpin_length (db : Option Nat) (b : Backend) :
    ((unpin db).run b).2.handles.length = b.handles.length := by
  cases db <;> simp

@[simp] theorem retired_pin (db : Option Nat) (b : Backend) (k : Nat) :
    (((pin db).run b).2.handles.getD k default).retired = (b.handles.getD k default).retired := by
  cases db with
  | none => rfl
  | some i =>
    rw [pin_run, getD_modify]
    split <;> simp

@[simp] theorem retired_unpin (db : Option Nat) (b : Backend) (k : Nat) :
    (((unpin db).run b).2.handles.getD k default).retired = (b.handles.getD k default).retired := by
  cases db with
  | none => rfl
  | some i =>
    rw [unpin_run, getD_modify]
    split <;> simp

/-- The handle of a loop's connection may be pinned while work keeps the handles alike. -/
theorem Alike.usable {db : Option Nat} (alike : Alike b₁ b₂)
    (usable : b₁.Usable (fun k => (b₁.handles.getD k default).retired) db) :
    b₂.Usable (fun k => (b₂.handles.getD k default).retired) db := by
  cases db with
  | none => trivial
  | some k => exact ⟨by rw [alike.1]; exact usable.1, (alike.2 k).trans usable.2⟩

/-- The connection of a worker's loop in a backend: a handle there that was not retired, and
every other handle retired. -/
def Current (b : Backend) (db : Option Nat) : Prop :=
  b.Usable (fun k => (b.handles.getD k default).retired) db ∧
    ∀ k < b.handles.length, db ≠ some k → (b.handles.getD k default).retired = true

theorem Alike.current {db : Option Nat} (alike : Alike b₁ b₂) (current : b₁.Current db) : b₂.Current db :=
  ⟨alike.usable current.1, fun k inRange other => (alike.2 k).trans (current.2 k (alike.1 ▸ inRange) other)⟩

end Backend

open Backend

namespace Thread

variable (t : Thread) (now : Instant) (b : Backend)

theorem alike_afterExec : Alike b (t.afterExec.run b).2 := by
  unfold afterExec
  split <;> simp only [Alike, BackendM.run_bind, BackendM.run_pure, unpin_length, retired_unpin, implies_true,
    and_self]

theorem alike_launch (db : Option Nat) : Alike b ((t.launch db now).run b).2 := by
  unfold launch
  split
  · exact .refl b
  · simp only [BackendM.run_bind]
    split
    · refine Alike.trans ?_ (alike_afterExec _ _)
      simp only [Alike, pin_length, retired_pin, Backend.handle_run, JobRun.execute_handles, implies_true, and_self]
    · simp only [Alike, BackendM.run_pure, pin_length, retired_pin, Backend.handle_run, JobRun.execute_handles,
        implies_true, and_self]

theorem alike_cancel : Alike b ((t.cancel now).run b).2 := by
  unfold cancel
  split
  · exact .refl b
  · split
    · exact .refl b
    · simp only [BackendM.run_bind]
      split <;> simp only [Alike, BackendM.run_bind, BackendM.run_pure, unpin_length, retired_unpin,
        Backend.handle_run, JobRun.cancel_handles, implies_true, and_self]

theorem alike_endExec : Alike b (t.endExec.run b).2 := by
  simpa only [endExec, BackendM.run_bind, BackendM.run_pure] using alike_afterExec t b

theorem alike_endCanc : Alike b (t.endCanc.run b).2 := by
  simp only [endCanc, Alike, BackendM.run_bind, BackendM.run_pure, unpin_length, retired_unpin, implies_true,
    and_self]

end Thread

namespace Threads

theorem Event.alike {x y : Threads × Backend} (event : Event x y) : Alike x.2 y.2 := by
  cases event with
  | cancel ts b i now _ => exact Thread.alike_cancel _ now b
  | resignal => exact .refl _
  | endExec ts b i _ _ => exact Thread.alike_endExec _ b
  | endCanc ts b i _ _ => exact Thread.alike_endCanc _ b
  | prune => exact .refl _

theorem Events.alike {x y : Threads × Backend} (events : Events x y) : Alike x.2 y.2 := by
  induction events with
  | refl => exact .refl _
  | tail _ event ih => exact ih.trans event.alike

theorem alike_start (ts : Threads) (i : Nat) (db : Option Nat) (now : Instant) (b : Backend) :
    Alike b ((ts.start i db now).run b).2 := by
  rw [Threads.start, BackendM.run_bind, BackendM.run_pure, updateM_run]
  exact Thread.alike_launch _ now b db

end Threads

namespace CleanupJob

variable (now : Instant)

theorem alike_finish (j : CleanupJob) (s : Sweep) (b : Backend) : Alike b ((j.finish s now).run b).2 := by
  simp only [CleanupJob.finish, Alike, BackendM.run_bind, BackendM.run_pure, unpin_length, retired_unpin,
    implies_true, and_self]

theorem Rests.alike {j : CleanupJob} {db : Option Nat} {b : Backend} {res : CleanupJob × Backend}
    (rests : Rests now j db b res) : Alike b res.2 := by
  obtain ⟨calls, s', b', -, -, handles, finished | waits⟩ := rests
  · rw [finished]
    exact (Alike.of_handles handles).trans (alike_finish now _ s' b')
  · rw [waits]
    exact Alike.of_handles handles

theorem alike_settle (j : CleanupJob) (b : Backend) : Alike b ((j.settle now).run b).2 := by
  unfold CleanupJob.settle
  split
  · split
    · split
      · exact (resume_rests now j _ _ b ‹_›).alike now
      · exact .refl b
    · exact .refl b
  · exact .refl b

theorem alike_release (j : CleanupJob) (name : Option String) (o : Outcome (Option Fault)) (b : Backend) :
    Alike b ((j.release name o now).run b).2 := by
  unfold CleanupJob.release
  split
  · split
    · split
      · exact (resume_rests now j _ o b ‹_›).alike now
      · exact .refl b
    · exact .refl b
  · exact .refl b

theorem alike_tick (j : CleanupJob) (db : Option Nat) (b : Backend) : Alike b ((j.tick db now).run b).2 := by
  unfold CleanupJob.tick
  split
  · split <;> exact .refl b
  · split
    · exact .refl b
    · rw [BackendM.run_bind]
      refine Alike.trans ?_ ((advance_rests now _ _ { db := db } _ rfl).alike now)
      simp only [Alike, pin_length, retired_pin, implies_true, and_self]

theorem alike_terminate (j : CleanupJob) (release : Option (Outcome (Option Fault))) (b : Backend) :
    Alike b ((j.terminate now release).run b).2 := by
  unfold CleanupJob.terminate
  split
  · exact .refl b
  · split
    · exact .refl b
    · rw [BackendM.run_bind]
      have settled := alike_settle now { j with sweep := some { ‹Sweep› with ctx := ‹Sweep›.ctx.cancel Fault.jobTerminate } } b
      split
      · exact settled
      · split
        · exact settled
        · rw [BackendM.run_bind, BackendM.run_bind]
          split <;> exact settled.trans ((alike_release now _ none _ _).trans (alike_settle now _ _))

end CleanupJob

/-! ## Runs of holder steps -/

namespace Holders

/-- Holder steps that neither open nor retire a handle. -/
def Works (s s' : Holders) : Prop :=
  Relation.ReflTransGen Step s s' ∧ Alike s.backend s'.backend

variable {s₁ s₂ s₃ : Holders}

theorem Works.refl (s : Holders) : Works s s := ⟨.refl, .refl _⟩

theorem Works.trans (first : Works s₁ s₂) (second : Works s₂ s₃) : Works s₁ s₃ :=
  ⟨first.1.trans second.1, first.2.trans second.2⟩

theorem Works.step (step : Step s₁ s₂) (alike : Alike s₁.backend s₂.backend) : Works s₁ s₂ :=
  ⟨.single step, alike⟩

/-- Holders of a worker whose threads and clean-up duty are another's. -/
theorem Works.source {w w' : Worker} {b : Backend} {t : Holders} (works : Works (ofWorker w' b) t)
    (threads : w'.threads = w.threads) (clean : w'.clean = w.clean) : Works (ofWorker w b) t := by
  unfold ofWorker at works ⊢
  rwa [threads, clean] at works

theorem works_events {w : Worker} {b b' : Backend} {ts : Threads} (events : Threads.Events (w.threads, b) (ts, b')) :
    Works (ofWorker w b) (ofWorker { w with threads := ts } b') :=
  .step (.events _ events) events.alike

@[simp] theorem Handle.retired_retire (h : Handle) : h.retire.retired = true := by
  unfold Handle.retire
  dsimp only
  split <;> rfl

theorem retire_current {w : Worker} {b : Backend} {db : Option Nat} (current : b.Current db) :
    Relation.ReflTransGen Step (ofWorker w b) (ofWorker w ((Backend.retire db).run b).2) ∧
      ∀ k < ((Backend.retire db).run b).2.handles.length,
        ((((Backend.retire db).run b).2.handles.getD k default).retired) = true := by
  cases db with
  | none => exact ⟨.refl, fun k inRange => current.2 k inRange (by simp)⟩
  | some i =>
    refine ⟨.single (.retire _ i current.1.1), fun k inRange => ?_⟩
    rw [Backend.retire_run, getD_modify]
    by_cases same : i = k
    · subst same
      simp [current.1.1]
    · simp only [Backend.retire_run, List.length_modify] at inRange
      simpa [same] using current.2 k inRange (by simpa using same)

theorem current_openHandle {b : Backend} (d : Dialect) (pattern : String)
    (retired : ∀ k < b.handles.length, (b.handles.getD k default).retired = true) :
    ((Backend.openHandle (Handle.new d pattern)).run b).2.Current (some b.handles.length) := by
  simp only [Backend.openHandle_run]
  refine ⟨⟨by simp, by simp [Handle.new]⟩, fun k inRange other => ?_⟩
  have old : k < b.handles.length := by
    simp only [List.length_append, List.length_singleton] at inRange
    have : k ≠ b.handles.length := fun same => other (by rw [same])
    omega
  rw [List.getD_append _ _ _ _ old]
  exact retired k old

end Holders

open Holders

namespace Worker

variable (ctx : Ctx) (now : Instant)

theorem launchRows_works (db : Option Nat) (fuel : Nat) :
    ∀ (w : Worker) (b : Backend), b.Usable (fun k => (b.handles.getD k default).retired) db →
      Works (ofWorker w b) (ofWorker ((launchRows ctx db now fuel w).run b).1 ((launchRows ctx db now fuel w).run b).2) := by
  induction fuel with
  | zero => intro w b _; exact .refl _
  | succ fuel ih =>
    intro w b usable
    simp only [launchRows]
    split
    · exact .refl _
    · split
      · exact .refl _
      · split
        · exact .source (ih _ b usable) rfl rfl
        · split
          · exact .source (ih _ b usable) rfl rfl
          · -- the row's thread is prepared and its row checked, then it runs if the row was taken
            rename_i i ts prepared
            have inRange : i < ts.all.length := by
              obtain ⟨t, -, -, rfl, rfl⟩ := Threads.prepare_fresh prepared
              simp
            have checked : Works (ofWorker w b) (ofWorker { w with threads := ((ts.takeRow i db ctx now).run b).1.2 }
                ((ts.takeRow i db ctx now).run b).2) :=
              (Works.step (.prepare (ofWorker w b) _ _ prepared) (.refl _)).trans
                (Works.step (.takeRow _ i db ctx now) (Alike.of_handles (Threads.takeRow_handles i db ctx now)))
            have same := (@Threads.moves_takeRow ts b i db ctx now).1
            rw [BackendM.run_bind]
            generalize (ts.takeRow i db ctx now).run b = r at checked same ⊢
            obtain ⟨⟨taken, ts₂⟩, b₂⟩ := r
            dsimp only at checked same ⊢
            cases taken
            · exact checked.trans (.source (ih _ b₂ (checked.2.usable usable)) rfl rfl)
            · rw [if_pos rfl, BackendM.run_bind]
              have started : Works (ofWorker w b)
                  (ofWorker { w with threads := ((ts₂.start i db now).run b₂).1 } ((ts₂.start i db now).run b₂).2) :=
                checked.trans (Works.step (.start _ i db now (same ▸ inRange) (checked.2.usable usable))
                  (Threads.alike_start ts₂ i db now b₂))
              exact started.trans (.source (ih _ _ (started.2.usable usable)) rfl rfl)

theorem startJobs_works (w : Worker) (db : Option Nat) (b : Backend)
    (usable : b.Usable (fun k => (b.handles.getD k default).retired) db) :
    Works (ofWorker w b) (ofWorker ((w.startJobs ctx db now).run b).1.2 ((w.startJobs ctx db now).run b).2) := by
  unfold startJobs
  dsimp only
  split
  · exact .refl _
  · simp only [BackendM.run_bind, Backend.handle_run]
    have polled := Queue.query_handles w.queue w.threads.catalog ctx ((Backend.handle db).run b).1
      w.threads.startable b
    generalize (w.queue.query _ ctx _ _).run b = out at polled ⊢
    obtain ⟨⟨err, q⟩, b₂⟩ := out
    have queried : Works (ofWorker w b) (ofWorker { w with queue := q } b₂) :=
      .step (.work _ b₂ polled) (Alike.of_handles polled)
    cases err with
    | some e => exact queried
    | none =>
      rw [BackendM.run_bind]
      exact queried.trans (launchRows_works ctx now db _ _ b₂ ((Alike.of_handles polled).usable usable))

theorem loadMode_works (w : Worker) (b : Backend) :
    Works (ofWorker w b) (ofWorker ((w.loadMode ctx).run b).1.2 ((w.loadMode ctx).run b).2) :=
  .step (.work _ _ (ModeSource.loadNth_handles w.source w.loads ctx b))
    (Alike.of_handles (ModeSource.loadNth_handles w.source w.loads ctx b))

theorem afterStart_loop (st : WorkerLoop) (x : Option Fault × Worker) (b : Backend) :
    ((afterStart now st x).run b).1.2.2 = st := by
  obtain ⟨err, w⟩ := x
  unfold afterStart
  cases err with
  | some e => rfl
  | none => cases st.mode.dataUpdateStop <;> rfl

theorem afterLoad_db (st : WorkerLoop) (x : Except Fault Mode × Worker) (b : Backend) :
    ((afterLoad ctx now st x).run b).1.2.2.db = st.db := by
  obtain ⟨res, w⟩ := x
  cases res with
  | error e => rfl
  | ok m =>
    simp only [afterLoad]
    split <;> (try split) <;> simp only [BackendM.run_bind, afterStart_loop]

theorem afterConnect_db (x : Option Fault × Worker × WorkerLoop) (b : Backend) :
    ((afterConnect ctx now x).run b).1.2.2.db = x.2.2.db := by
  obtain ⟨err, w, st⟩ := x
  cases err with
  | some e => rfl
  | none =>
    simp only [afterConnect, Option.isSome_none, Bool.false_eq_true, ↓reduceIte, BackendM.run_bind]
    split <;> (try split) <;> simp only [BackendM.run_bind, afterLoad_db]

theorem afterStart_works (st : WorkerLoop) (x : Option Fault × Worker) (b : Backend)
    (usable : b.Usable (fun k => (b.handles.getD k default).retired) st.db) :
    Works (ofWorker x.2 b) (ofWorker ((afterStart now st x).run b).1.2.1 ((afterStart now st x).run b).2) := by
  obtain ⟨err, w⟩ := x
  unfold afterStart
  cases err with
  | some e => exact .refl _
  | none =>
    cases st.mode.dataUpdateStop
    · simp only [Option.isSome_none, Bool.false_eq_true, ↓reduceIte, BackendM.run_bind, BackendM.run_pure]
      exact .step (.cleanTick _ st.db now usable) (CleanupJob.alike_tick now w.clean st.db b)
    · simp only [Option.isSome_none, Bool.false_eq_true, ↓reduceIte, BackendM.run_pure]
      exact .refl _

theorem afterLoad_works (st : WorkerLoop) (x : Except Fault Mode × Worker) (b : Backend)
    (usable : b.Usable (fun k => (b.handles.getD k default).retired) st.db) :
    Works (ofWorker x.2 b) (ofWorker ((afterLoad ctx now st x).run b).1.2.1 ((afterLoad ctx now st x).run b).2) := by
  obtain ⟨res, w⟩ := x
  cases res with
  | error e => exact .refl _
  | ok m =>
    simp only [afterLoad]
    by_cases stop : (m.paused || w.draining now) = true
    · simp only [stop, ↓reduceIte, Bool.false_eq_true, BackendM.run_bind, BackendM.run_pure]
      exact afterStart_works now _ (none, w) b usable
    · simp only [stop, Bool.false_eq_true, ↓reduceIte]
      cases (st.queueEvery.passed now).1 && decide (↑w.threads.count < w.settings.maxJobPerProcess)
      · simp only [Bool.false_eq_true, ↓reduceIte, BackendM.run_bind, BackendM.run_pure]
        exact afterStart_works now _ (none, w) b usable
      · simp only [↓reduceIte, BackendM.run_bind]
        have started := startJobs_works ctx now w st.db b usable
        refine started.trans (afterStart_works now _ _ _ ?_)
        exact started.2.usable usable

theorem afterConnect_works (x : Option Fault × Worker × WorkerLoop) (b : Backend)
    (usable : b.Usable (fun k => (b.handles.getD k default).retired) x.2.2.db) :
    Works (ofWorker x.2.1 b) (ofWorker ((afterConnect ctx now x).run b).1.2.1 ((afterConnect ctx now x).run b).2) := by
  obtain ⟨err, w, st⟩ := x
  cases err with
  | some e => exact .refl _
  | none =>
    simp only [afterConnect, Option.isSome_none, Bool.false_eq_true, ↓reduceIte, BackendM.run_bind]
    have ticked : Works (ofWorker w b)
        (ofWorker { w with threads := ((w.threads.tick now).run b).1 } ((w.threads.tick now).run b).2) :=
      works_events (Threads.events_tick now)
    have read := ticked.trans (loadMode_works ctx _ _)
    cases st.modeLoaded
    · simp only [Bool.not_false, ↓reduceIte, BackendM.run_bind]
      refine read.trans (afterLoad_works ctx now _ _ _ ?_)
      exact read.2.usable usable
    · simp only [Bool.not_true, Bool.false_eq_true, ↓reduceIte]
      cases (st.modeEvery.passed now).1
      · simp only [Bool.false_eq_true, ↓reduceIte, BackendM.run_bind, BackendM.run_pure]
        refine ticked.trans (afterLoad_works ctx now _ (_, _) _ ?_)
        exact ticked.2.usable usable
      · simp only [↓reduceIte, BackendM.run_bind]
        refine read.trans (afterLoad_works ctx now _ _ _ ?_)
        exact read.2.usable usable

theorem connect_moves (w : Worker) (st : WorkerLoop) (b : Backend) (current : b.Current st.db) :
    Relation.ReflTransGen Step (ofWorker w b) (ofWorker ((w.connect st).run b).1.2.1 ((w.connect st).run b).2) ∧
      ((w.connect st).run b).2.Current ((w.connect st).run b).1.2.2.db := by
  obtain ⟨retired, allRetired⟩ := retire_current (w := w) current
  unfold connect
  simp only [BackendM.run_bind]
  generalize (Backend.retire st.db).run b = out at retired allRetired ⊢
  obtain ⟨⟨⟩, b₁⟩ := out
  split
  · exact ⟨retired.tail (.openHandle _ w.dialect w.workspaceSchema),
      current_openHandle w.dialect w.workspaceSchema allRetired⟩
  · exact ⟨retired.tail (.openHandle _ w.dialect w.workspaceSchema),
      current_openHandle w.dialect w.workspaceSchema allRetired⟩
  · exact ⟨retired, trivial, fun k inRange _ => allRetired k inRange⟩
  · exact ⟨retired, trivial, fun k inRange _ => allRetired k inRange⟩

theorem afterConnect_moves {s : Holders} (x : Option Fault × Worker × WorkerLoop) (b : Backend)
    (moved : Relation.ReflTransGen Step s (ofWorker x.2.1 b)) (current : b.Current x.2.2.db) :
    Relation.ReflTransGen Step s (ofWorker ((afterConnect ctx now x).run b).1.2.1 ((afterConnect ctx now x).run b).2) ∧
      ((afterConnect ctx now x).run b).2.Current ((afterConnect ctx now x).run b).1.2.2.db := by
  have works := afterConnect_works ctx now x b current.1
  exact ⟨moved.trans works.1, by rw [afterConnect_db]; exact works.2.current current⟩

theorem step_moves (w : Worker) (st : WorkerLoop) (b : Backend) (current : b.Current st.db) :
    Relation.ReflTransGen Step (ofWorker w b) (ofWorker ((w.step st ctx now).run b).1.2.1 ((w.step st ctx now).run b).2) ∧
      ((w.step st ctx now).run b).2.Current ((w.step st ctx now).run b).1.2.2.db := by
  rw [step_eq_stages]
  by_cases due : (st.db.isNone || st.reconnect) = true
  · simp only [due, ↓reduceIte, BackendM.run_bind]
    obtain ⟨moved, current'⟩ := connect_moves w st b current
    exact afterConnect_moves ctx now _ _ moved current'
  · simp only [due, Bool.false_eq_true, ↓reduceIte]
    cases (st.reconnectEvery.passed now).1
    · simp only [Bool.false_eq_true, ↓reduceIte, BackendM.run_bind, BackendM.run_pure]
      exact afterConnect_moves ctx now (none, w, _) b .refl current
    · simp only [↓reduceIte, BackendM.run_bind]
      obtain ⟨moved, current'⟩ := connect_moves w { st with reconnectEvery := (st.reconnectEvery.passed now).2 } b current
      exact afterConnect_moves ctx now _ _ moved current'

theorem shutdown_moves (w : Worker) (db : Option Nat) (b : Backend) (current : b.Current db) :
    Relation.ReflTransGen Step (ofWorker w b) (ofWorker ((w.shutdown db now).run b).1.2 ((w.shutdown db now).run b).2) ∧
      ∀ k < ((w.shutdown db now).run b).2.handles.length,
        (((w.shutdown db now).run b).2.handles.getD k default).retired = true := by
  simp only [shutdown, BackendM.run_bind, BackendM.run_pure]
  have stopped : Works (ofWorker w b) (ofWorker { w with clean := ((w.clean.terminate now none).run b).1.2 }
      ((w.clean.terminate now none).run b).2) :=
    .step (.cleanTerminate (ofWorker w b) now none) (CleanupJob.alike_terminate now w.clean none b)
  have ended := stopped.trans (works_events (Threads.events_terminate now w.settings.shutdownWait))
  exact ⟨ended.1.trans (retire_current (ended.2.current current)).1,
    (retire_current (w := w) (ended.2.current current)).2⟩

end Worker

/-! ## A run with what goes on around it -/

namespace RunState

open Worker

def holders (r : RunState) : Holders := ofWorker r.w r.b

/-- How a run stands with its handles: before its first pass it has no connection; until it
returns, its loop's connection is the only handle not retired; once it returned, every handle
is retired. -/
structure Connected (r : RunState) : Prop where
  unconnected : r.pc.flagRead = false → r.loop.db = none
  current : r.pc ≠ .returned → r.b.Current r.loop.db
  retired : r.pc = .returned → ∀ k < r.b.handles.length, (r.b.handles.getD k default).retired = true

variable {r r' : RunState}

/-- What goes on around a run leaves where it is and its loop, and only pins, lets go and
queries. -/
theorem Connected.around (conn : r.Connected) (alike : Alike r.b r'.b) (loop : r'.loop = r.loop)
    (pc : r'.pc = r.pc) : r'.Connected where
  unconnected read := by rw [loop]; exact conn.unconnected (pc ▸ read)
  current running := by rw [loop]; exact alike.current (conn.current (pc ▸ running))
  retired returned k inRange := (alike.2 k).trans (conn.retired (pc ▸ returned) k (alike.1 ▸ inRange))

theorem Connected.own (conn : r.Connected) (alike : Alike r.b r'.b) (loop : r'.loop = r.loop)
    (running : r.pc ≠ .returned) (running' : r'.pc ≠ .returned) (read : r'.pc.flagRead = false → r.pc.flagRead = false) :
    r'.Connected where
  unconnected unread := by rw [loop]; exact conn.unconnected (read unread)
  current _ := by rw [loop]; exact alike.current (conn.current running)
  retired returned := absurd returned running'

theorem Own.moves (conn : r.Connected) (own : Own r r') :
    Relation.ReflTransGen Holders.Step r.holders r'.holders ∧ r'.Connected := by
  cases own with
  | install idle =>
    have none_ : r.loop.db = none := conn.unconnected (by rw [idle]; rfl)
    refine ⟨.refl, fun _ => rfl, fun _ => ?_, fun at_ => nomatch at_⟩
    have current := conn.current (by rw [idle]; exact fun at_ => nomatch at_)
    rw [none_] at current
    exact current
  | check at_ => exact ⟨.refl, conn.own (.refl _) rfl (by rw [at_]; exact fun h => by cases h)
      (fun h => by cases h) (fun h => by cases h)⟩
  | halt at_ _ => exact ⟨.refl, conn.own (.refl _) rfl (by rw [at_]; exact fun h => by cases h)
      (fun h => by cases h) (fun h => by cases h)⟩
  | proceed at_ _ => exact ⟨.refl, conn.own (.refl _) rfl (by rw [at_]; exact fun h => by cases h)
      (fun h => by cases h) (fun h => by cases h)⟩
  | drained at_ _ _ =>
    have works := works_events (@Threads.events_tick r.w.threads r.b r.now)
    exact ⟨works.1, conn.own works.2 rfl (by rw [at_]; exact fun h => by cases h) (fun h => by cases h)
      (fun h => by cases h)⟩
  | drainOn at_ _ _ =>
    have works := works_events (@Threads.events_tick r.w.threads r.b r.now)
    exact ⟨works.1, conn.own works.2 rfl (by rw [at_]; exact fun h => by cases h) (fun h => by cases h)
      (fun h => by cases h)⟩
  | work at_ _ => exact ⟨.refl, conn.own (.refl _) rfl (by rw [at_]; exact fun h => by cases h)
      (fun h => by cases h) (fun h => by cases h)⟩
  | pass at_ =>
    obtain ⟨moved, current⟩ := step_moves r.ctx r.now r.w r.loop r.b (conn.current (by rw [at_]; exact fun h => by cases h))
    have same : (r.afterPass ((r.w.step r.loop r.ctx r.now).run r.b)).loop.db =
        ((r.w.step r.loop r.ctx r.now).run r.b).1.2.2.db := by
      simp only [afterPass]
      split_ifs <;> rfl
    exact ⟨moved, ⟨(fun h => by cases h), fun _ => same ▸ current, (fun h => by cases h)⟩⟩
  | cancelOne i rest at_ =>
    have works := works_events (Threads.events_sweep [.running, .timeout] false r.now [i] r.w.threads r.b)
    exact ⟨works.1, conn.own works.2 rfl (by rw [at_]; exact fun h => by cases h) (fun h => by cases h)
      (fun h => by cases h)⟩
  | stop at_ => exact ⟨.refl, conn.own (.refl _) rfl (by rw [at_]; exact fun h => by cases h)
      (fun h => by cases h) (fun h => by cases h)⟩
  | terminate at_ =>
    have works := works_events (@Threads.events_terminate r.w.threads r.b r.now r.jobsDeadline)
    exact ⟨works.1, conn.own works.2 rfl (by rw [at_]; exact fun h => by cases h) (fun h => by cases h)
      (fun h => by cases h)⟩
  | finish at_ _ =>
    obtain ⟨retired, allRetired⟩ := retire_current (w := r.w) (conn.current (by rw [at_]; exact fun h => by cases h))
    exact ⟨retired, ⟨(fun h => by cases h), fun h => absurd rfl h, fun _ => allRetired⟩⟩

theorem Around.moves (conn : r.Connected) (around : Around r r') :
    Relation.ReflTransGen Holders.Step r.holders r'.holders ∧ r'.Connected := by
  cases around with
  | graceful => exact ⟨.refl, conn.around (.refl _) rfl rfl⟩
  | store => exact ⟨.refl, conn.around (.refl _) rfl rfl⟩
  | lock => exact ⟨.refl, conn.around (.refl _) rfl rfl⟩
  | parent => exact ⟨.refl, conn.around (.refl _) rfl rfl⟩
  | clock => exact ⟨.refl, conn.around (.refl _) rfl rfl⟩
  | execReturns i exec alive =>
    have works := works_events (.single (Threads.Event.endExec r.w.threads r.b i exec alive))
    exact ⟨works.1, conn.around works.2 rfl rfl⟩
  | cancelReturns i canc alive =>
    have works := works_events (.single (Threads.Event.endCanc r.w.threads r.b i canc alive))
    exact ⟨works.1, conn.around works.2 rfl rfl⟩
  | cleanSettles =>
    have works := Works.step (.cleanSettle r.holders r.now) (CleanupJob.alike_settle r.now r.w.clean r.b)
    exact ⟨works.1, conn.around works.2 rfl rfl⟩
  | cleanReleased name o =>
    have works := Works.step (.cleanRelease r.holders name o r.now) (CleanupJob.alike_release r.now r.w.clean name o r.b)
    exact ⟨works.1, conn.around works.2 rfl rfl⟩
  | sweeper release _ =>
    have works := Works.step (.cleanTerminate r.holders r.now release)
      (CleanupJob.alike_terminate r.now r.w.clean release r.b)
    exact ⟨works.1, conn.around works.2 rfl rfl⟩

theorem Step.moves (conn : r.Connected) (step : Step r r') :
    Relation.ReflTransGen Holders.Step r.holders r'.holders ∧ r'.Connected := by
  cases step with
  | around around => exact around.moves conn
  | own own => exact own.moves conn

theorem Reaches.moves (run : Relation.ReflTransGen Step r r') (conn : r.Connected) :
    Relation.ReflTransGen Holders.Step r.holders r'.holders ∧ r'.Connected := by
  induction run with
  | refl => exact ⟨.refl, conn⟩
  | tail _ step ih =>
    obtain ⟨moved, conn'⟩ := ih
    obtain ⟨moved', conn''⟩ := step.moves conn'
    exact ⟨moved.trans moved', conn''⟩

/-- Handle pinning along every run of a new worker, with every interleaving of what goes on
around it: the run's holders move by holder steps from those of the new worker, so all that
`Holders.Pinned` says holds of them and of any later run; and besides the loop's connection,
which exists and is not retired, every handle is retired, as is every handle once the run
returned. -/
theorem handles_over_run {s : Settings} {cat : Catalog JobType} {pid : Int} {info : CleanupInfo}
    {terminatingTime : Instant} {source : ModeSource} {dialer : Dialer} {dialect : Dialect} {workspaceSchema : String}
    {db : ScriptedDb} {now : Instant} {r r' : RunState}
    (run : Relation.ReflTransGen Step
      (start (Worker.new s cat pid info terminatingTime source dialer dialect workspaceSchema) { db := db } now) r)
    (later : Relation.ReflTransGen Step r r') :
    Relation.ReflTransGen Holders.Step (Holders.new cat s.jobCancelTimeout s.watchInterval s.cleanUpSchedule pid info db)
        r.holders ∧
      Holders.Pinned r.holders r'.holders ∧ r.Connected := by
  have fresh : (start (Worker.new s cat pid info terminatingTime source dialer dialect workspaceSchema) { db := db }
      now).Connected := ⟨fun _ => rfl, fun _ => ⟨trivial, fun k inRange => absurd inRange (Nat.not_lt_zero k)⟩,
    fun at_ => nomatch at_⟩
  obtain ⟨reach, conn⟩ := Reaches.moves run fresh
  exact ⟨reach, Holders.handle_pins reach (Reaches.moves later conn).1, conn⟩

/-- A worker whose first pass fails to read the switches: the next pass reconnects, retiring
the first handle, which nobody holds and so closes, and opening a second. -/
theorem handles_over_reconnect :
    ∃ r, Relation.ReflTransGen Step (start (Worker.new ⟨default, default, 1, 1, 1, 1, 1, 1, 1, 2, 1, 1, "", .every 1,
        "", []⟩ ⟨[], []⟩ 1 {} ⟨5⟩ (.scripted [.error "down", .ok {}]) {} Dialect.sqlite "") {} .zero) r ∧
      r.loop.db = some 1 ∧ (r.b.handles.getD 0 default).closed = true ∧
      Relation.ReflTransGen Holders.Step (Holders.new ⟨[], []⟩ 1 1 (.every 1) 1 {} {}) r.holders ∧
      Holders.Pinned r.holders r.holders ∧ r.Connected := by
  apply Exists.intro
  refine (fun run => ⟨run, ?rest⟩) ?run
  case run =>
    exact (((((((Relation.ReflTransGen.single (Step.own (.install _ rfl))).tail (.own (.check _ rfl))).tail
      (.own (.proceed _ rfl rfl))).tail (.own (.work _ rfl rfl))).tail (.own (.pass _ rfl))).tail
      (.own (.proceed _ rfl (by decide +kernel)))).tail (.own (.work _ rfl (by decide +kernel)))).tail
      (.own (.pass _ rfl))
  case rest =>
    have pins := handles_over_run run .refl
    exact ⟨by decide +kernel, by decide +kernel, pins⟩

end RunState

end Foreman

import Mathlib.Logic.Relation
import Foreman.Worker.Loop
import Foreman.Proofs.Backend

/-!
# What lets a worker start a job

A pass starts a job only past three gates:

* the maintenance switches in force do not pause jobs: those the pass read or, when no read
  was due, those kept from the last good read; a failed read ends the pass, starts nothing
  and keeps the switches;
* the worker does not drain: no graceful stop asked for at the check, and the clock before
  its terminating time;
* the executor's start check took the row, returning `true` with no error or panic
  (`Call.started`).

A pass ticks the clean-up duty only when the switches let data be updated.
`Worker.stepTraced` is the pass (`step_eq_traced`) with its calls noted as `PassEvent`s; what
they can be is `PassShape` (`stepTraced_shape`), and `admission_gates` reads the gates off
it, within the pass and, for the switches carried between passes, over the loop's runs
(`LoopTurn`).
-/

namespace Foreman

set_option autoImplicit false

theorem Call.started_eq_true (r : Outcome (Bool × Option Fault)) :
    Call.started r = true ↔ r = .returned (true, none) := by
  cases r with
  | returned a =>
      obtain ⟨ok, err⟩ := a
      cases err <;> simp [Call.started]
  | panicked msg => simp [Call.started]

theorem Call.taken_eq_true (o : Option (Outcome (Bool × Option Fault))) :
    (o.map Call.started).getD false = true ↔ o = some (.returned (true, none)) := by
  cases o with
  | none => simp
  | some r => simp [Call.started_eq_true]

namespace Worker

/-! ## The calls of a pass -/

/-- A call a pass of the loop makes that decides whether jobs start. -/
inductive PassEvent where
  /-- The maintenance switches were read, with this answer. -/
  | loaded (answer : Except Fault Mode)
  /-- The draining check, with whether a graceful stop had been asked for and the clock it read. -/
  | drainChecked (graceful : Bool) (clock : Instant)
  /-- The start check of a thread, with the executor's answer (`none` when it did not return). -/
  | checked (thread : Nat) (answer : Option (Outcome (Bool × Option Fault)))
  /-- A thread was started. -/
  | started (thread : Nat)
  /-- The clean-up duty was ticked. -/
  | cleanTicked

def PassEvent.handout : PassEvent → Bool
  | .checked _ _ => true
  | .started _ => true
  | _ => false

/-- `launchRows`, noting each start check with the executor's answer and each start. -/
def launchRowsTraced (ctx : Ctx) (db : Option Nat) (now : Instant) :
    Nat → Worker → BackendM (Worker × List PassEvent)
  | 0, w => return (w, [])
  | fuel + 1, w => do
    if (w.threads.count : Int) ≥ w.settings.maxJobPerProcess then return (w, [])
    match w.queue.pop w.threads.startable (fun o => w.threads.countByOrg o) with
    | (none, q) => return ({ w with queue := q }, [])
    | (some row, q) =>
      let w := { w with queue := q }
      match w.threads.catalog.lookup row.job with
      | none => launchRowsTraced ctx db now fuel w
      | some d =>
        let n := w.madeOf d.config.executor
        let w := w.bumpMade d.config.executor
        match w.threads.prepare row (fun d r => d.type.new n r d.config) with
        | .error _ => launchRowsTraced ctx db now fuel w
        | .ok (i, ts) =>
          let h ← Backend.handle db
          let (o, e) ← (ts.get i).executor.start ctx h now
          let taken := (o.map Call.started).getD false
          let ts := { ts with all := ts.all.set i { ts.get i with executor := e } }
          let ts ← if taken then ts.start i db now else pure ts
          let (w, events) ← launchRowsTraced ctx db now fuel { w with threads := ts }
          return (w, .checked i o :: ((if taken then [.started i] else []) ++ events))

def startJobsTraced (w : Worker) (ctx : Ctx) (db : Option Nat) (now : Instant) :
    BackendM ((Option Fault × Worker) × List PassEvent) := do
  let startable := w.threads.startable
  if startable.isEmpty then return ((none, w), [])
  let (err, q) ← w.queue.query w.threads.catalog ctx (← Backend.handle db) startable
  let w := { w with queue := q }
  match err with
  | some e => return ((some e, w), [])
  | none =>
    let (w, events) ← launchRowsTraced ctx db now q.rows.length w
    return ((none, w), events)

/-! ## A pass in stages

A pass runs in three stages after connecting: tick the threads and read the switches, then
hand out rows, then tick the clean-up duty. `step_eq_stages` cuts `step` at those points, and
each traced stage is the stage with its events noted. -/

/-- The last stage of a pass, once rows were handed out: the clean-up tick, unless the pass
failed or data updates are stopped. -/
def afterStart (now : Instant) (st : WorkerLoop) : Option Fault × Worker → BackendM (Option Fault × Worker × WorkerLoop)
  | (err, w) => do
    if err.isSome then return (err, w, st)
    if st.mode.dataUpdateStop then return (none, w, st)
    return (none, { w with clean := ← w.clean.tick st.db now }, st)

/-- The stage of a pass once the switches were read (or kept): check the gates and hand out
rows. -/
def afterLoad (ctx : Ctx) (now : Instant) (st : WorkerLoop) :
    Except Fault Mode × Worker → BackendM (Option Fault × Worker × WorkerLoop)
  | (res, w) =>
    match res with
    | .error e => return (some e, w, st)
    | .ok m =>
      let st := { st with mode := m, modeLoaded := true }
      let (go, st) :=
        if st.mode.paused || w.draining now then (false, st)
        else
          let (p, t) := st.queueEvery.passed now
          (p && (w.threads.count : Int) < w.settings.maxJobPerProcess, { st with queueEvery := t })
      if go then w.startJobs ctx st.db now >>= afterStart now st
      else pure (none, w) >>= afterStart now st

/-- The stage of a pass once connected: tick the threads, then read the switches when due. -/
def afterConnect (ctx : Ctx) (now : Instant) :
    Option Fault × Worker × WorkerLoop → BackendM (Option Fault × Worker × WorkerLoop)
  | (err, w, st) => do
    if err.isSome then return (err, w, st)
    let w := { w with threads := ← w.threads.tick now }
    let (due, st) :=
      if !st.modeLoaded then (true, st)
      else
        let (p, t) := st.modeEvery.passed now
        (p, { st with modeEvery := t })
    if due then w.loadMode ctx >>= afterLoad ctx now st
    else pure (.ok st.mode, w) >>= afterLoad ctx now st

theorem step_eq_stages (w : Worker) (st : WorkerLoop) (ctx : Ctx) (now : Instant) :
    w.step st ctx now =
      let (due, st) :=
        if st.db.isNone || st.reconnect then (true, st)
        else
          let (p, t) := st.reconnectEvery.passed now
          (p, { st with reconnectEvery := t })
      if due then w.connect st >>= afterConnect ctx now
      else pure (none, w, st) >>= afterConnect ctx now := rfl

/-- `afterStart`, noting the clean-up tick after the events `pre` and those of handing out
rows. -/
def afterStartTraced (now : Instant) (st : WorkerLoop) (pre : List PassEvent) :
    (Option Fault × Worker) × List PassEvent → BackendM ((Option Fault × Worker × WorkerLoop) × List PassEvent)
  | ((err, w), launched) => do
    if err.isSome then return ((err, w, st), pre ++ launched)
    if st.mode.dataUpdateStop then return ((none, w, st), pre ++ launched)
    return ((none, { w with clean := ← w.clean.tick st.db now }, st), pre ++ launched ++ [.cleanTicked])

/-- `afterLoad`, noting the draining check and the calls of handing out rows after the events
`read`. -/
def afterLoadTraced (ctx : Ctx) (now : Instant) (st : WorkerLoop) (read : List PassEvent) :
    Except Fault Mode × Worker → BackendM ((Option Fault × Worker × WorkerLoop) × List PassEvent)
  | (res, w) =>
    match res with
    | .error e => return ((some e, w, st), read)
    | .ok m =>
      let st := { st with mode := m, modeLoaded := true }
      let gate := if st.mode.paused then [] else [PassEvent.drainChecked w.graceful now]
      let (go, st) :=
        if st.mode.paused || w.draining now then (false, st)
        else
          let (p, t) := st.queueEvery.passed now
          (p && (w.threads.count : Int) < w.settings.maxJobPerProcess, { st with queueEvery := t })
      if go then w.startJobsTraced ctx st.db now >>= afterStartTraced now st (read ++ gate)
      else pure ((none, w), []) >>= afterStartTraced now st (read ++ gate)

/-- `afterConnect`, noting the read of the switches and its answer. -/
def afterConnectTraced (ctx : Ctx) (now : Instant) :
    Option Fault × Worker × WorkerLoop → BackendM ((Option Fault × Worker × WorkerLoop) × List PassEvent)
  | (err, w, st) => do
    if err.isSome then return ((err, w, st), [])
    let w := { w with threads := ← w.threads.tick now }
    let (due, st) :=
      if !st.modeLoaded then (true, st)
      else
        let (p, t) := st.modeEvery.passed now
        (p, { st with modeEvery := t })
    if due then w.loadMode ctx >>= fun r => afterLoadTraced ctx now st [.loaded r.1] r
    else pure (.ok st.mode, w) >>= afterLoadTraced ctx now st []

/-- `step`, noting the read of the switches, the draining check, the start checks and starts,
and the clean-up tick. -/
def stepTraced (w : Worker) (st : WorkerLoop) (ctx : Ctx) (now : Instant) :
    BackendM ((Option Fault × Worker × WorkerLoop) × List PassEvent) :=
  let (due, st) :=
    if st.db.isNone || st.reconnect then (true, st)
    else
      let (p, t) := st.reconnectEvery.passed now
      (p, { st with reconnectEvery := t })
  if due then w.connect st >>= afterConnectTraced ctx now
  else pure (none, w, st) >>= afterConnectTraced ctx now

/-! ## The traced pass is the pass -/

theorem launchRows_eq_traced (ctx : Ctx) (db : Option Nat) (now : Instant) (fuel : Nat) :
    ∀ (w : Worker) (b : Backend), (launchRows ctx db now fuel w).run b =
      (((launchRowsTraced ctx db now fuel w).run b).1.1, ((launchRowsTraced ctx db now fuel w).run b).2) := by
  intro w b
  fun_induction launchRowsTraced ctx db now fuel w generalizing b with
  | case1 => rfl
  | case2 =>
      rename_i full
      rw [launchRows]
      simp only [full, ↓reduceIte]
      rfl
  | case3 =>
      rename_i room q popped
      rw [launchRows]
      simp only [room, popped, ↓reduceIte]
      rfl
  | case4 =>
      rename_i room row q popped w' unknown ih
      dsimp only [w'] at unknown
      rw [launchRows]
      simp only [room, popped, unknown, ↓reduceIte]
      exact ih b
  | case5 =>
      rename_i room row q popped w₁ d found n w₂ e refused ih
      dsimp only [w₁] at found
      dsimp only [w₁, w₂, n] at refused
      rw [launchRows]
      simp only [room, popped, found, refused, ↓reduceIte]
      exact ih b
  | case6 =>
      rename_i room row q popped w₁ d found n w₂ i ts prepared ih
      dsimp only [w₁] at found
      dsimp only [w₁, w₂, n] at prepared
      dsimp only [w₁, w₂, n] at ih ⊢
      rw [launchRows]
      simp only [room, popped, found, prepared, ↓reduceIte, Threads.takeRow, Thread.takeRow, BackendM.run_bind,
        BackendM.run_pure]
      split <;> rename_i taken <;>
        simp only [taken, Bool.false_eq_true, ↓reduceIte, BackendM.run_bind, BackendM.run_pure, ih]

theorem startJobs_eq_traced (w : Worker) (ctx : Ctx) (db : Option Nat) (now : Instant) (b : Backend) :
    (w.startJobs ctx db now).run b =
      (((w.startJobsTraced ctx db now).run b).1.1, ((w.startJobsTraced ctx db now).run b).2) := by
  simp only [startJobs, startJobsTraced]
  split
  · rfl
  · simp only [BackendM.run_bind]
    generalize (w.queue.query _ ctx _ _).run _ = polled
    obtain ⟨⟨err, q⟩, b₂⟩ := polled
    cases err with
    | some e => rfl
    | none => simp only [BackendM.run_bind, BackendM.run_pure, launchRows_eq_traced]

theorem afterStart_eq_traced (now : Instant) (st : WorkerLoop) (pre : List PassEvent) (err : Option Fault)
    (w : Worker) (launched : List PassEvent) (b : Backend) :
    (afterStart now st (err, w)).run b =
      (((afterStartTraced now st pre ((err, w), launched)).run b).1.1,
        ((afterStartTraced now st pre ((err, w), launched)).run b).2) := by
  unfold afterStart afterStartTraced
  cases err with
  | some e => rfl
  | none =>
      cases st.mode.dataUpdateStop
      · simp only [Option.isSome_none, Bool.false_eq_true, ↓reduceIte, BackendM.run_bind, BackendM.run_pure]
      · simp only [Option.isSome_none, Bool.false_eq_true, ↓reduceIte, BackendM.run_pure]

theorem afterLoad_eq_traced (ctx : Ctx) (now : Instant) (st : WorkerLoop) (read : List PassEvent)
    (res : Except Fault Mode) (w : Worker) (b : Backend) :
    (afterLoad ctx now st (res, w)).run b =
      (((afterLoadTraced ctx now st read (res, w)).run b).1.1, ((afterLoadTraced ctx now st read (res, w)).run b).2) := by
  cases res with
  | error e => rfl
  | ok m =>
      simp only [afterLoad, afterLoadTraced]
      by_cases stop : (m.paused || w.draining now) = true
      · simp only [stop, ↓reduceIte, Bool.false_eq_true, BackendM.run_bind, BackendM.run_pure]
        exact afterStart_eq_traced _ _ _ _ _ _ _
      · simp only [stop, ↓reduceIte, Bool.false_eq_true]
        cases (st.queueEvery.passed now).1 && decide (↑w.threads.count < w.settings.maxJobPerProcess)
        · simp only [Bool.false_eq_true, ↓reduceIte, BackendM.run_bind, BackendM.run_pure]
          exact afterStart_eq_traced _ _ _ _ _ _ _
        · simp only [↓reduceIte, BackendM.run_bind, startJobs_eq_traced]
          exact afterStart_eq_traced _ _ _ _ _ _ _

theorem afterConnect_eq_traced (ctx : Ctx) (now : Instant) (err : Option Fault) (w : Worker) (st : WorkerLoop)
    (b : Backend) :
    (afterConnect ctx now (err, w, st)).run b =
      (((afterConnectTraced ctx now (err, w, st)).run b).1.1, ((afterConnectTraced ctx now (err, w, st)).run b).2) := by
  cases err with
  | some e => rfl
  | none =>
      simp only [afterConnect, afterConnectTraced, Option.isSome_none, Bool.false_eq_true, ↓reduceIte,
        BackendM.run_bind]
      cases st.modeLoaded
      · simp only [Bool.not_false, ↓reduceIte, BackendM.run_bind]
        exact afterLoad_eq_traced _ _ _ _ _ _ _
      · simp only [Bool.not_true, Bool.false_eq_true, ↓reduceIte]
        cases (st.modeEvery.passed now).1
        · simp only [Bool.false_eq_true, ↓reduceIte, BackendM.run_bind, BackendM.run_pure]
          exact afterLoad_eq_traced _ _ _ _ _ _ _
        · simp only [↓reduceIte, BackendM.run_bind]
          exact afterLoad_eq_traced _ _ _ _ _ _ _

/-- The traced pass is the pass: the same result and the same backend, with the events beside. -/
theorem step_eq_traced (w : Worker) (st : WorkerLoop) (ctx : Ctx) (now : Instant) (b : Backend) :
    (w.step st ctx now).run b = (((w.stepTraced st ctx now).run b).1.1, ((w.stepTraced st ctx now).run b).2) := by
  rw [step_eq_stages]
  simp only [stepTraced]
  have rest : ∀ (c : BackendM (Option Fault × Worker × WorkerLoop)),
      (c >>= afterConnect ctx now).run b =
        (((c >>= afterConnectTraced ctx now).run b).1.1, ((c >>= afterConnectTraced ctx now).run b).2) := by
    intro c
    simp only [BackendM.run_bind]
    obtain ⟨⟨err, w', st'⟩, b'⟩ := c.run b
    exact afterConnect_eq_traced ctx now err w' st' b'
  by_cases due : (st.db.isNone || st.reconnect) = true
  · simp only [due, ↓reduceIte]
    exact rest _
  · simp only [due, Bool.false_eq_true, ↓reduceIte]
    cases (st.reconnectEvery.passed now).1 <;> simp only [Bool.false_eq_true, ↓reduceIte] <;> exact rest _

/-! ## What the events of a pass can be -/

/-- The events of handing out rows: start checks and starts only, and each start follows the
start check of its thread, which answered `(true, none)`. -/
structure Handouts (events : List PassEvent) : Prop where
  only : ∀ e ∈ events, e.handout = true
  checked : ∀ i, .started i ∈ events → [.checked i (some (.returned (true, none))), .started i].Sublist events

theorem handouts_nil : Handouts [] := ⟨fun _ mem => (nomatch mem), fun _ mem => (nomatch mem)⟩

theorem Handouts.refused {events : List PassEvent} (rest : Handouts events) (i : Nat)
    (o : Option (Outcome (Bool × Option Fault))) : Handouts (.checked i o :: events) := by
  refine ⟨fun e mem => ?_, fun j mem => ?_⟩
  · rcases List.mem_cons.mp mem with rfl | old
    · rfl
    · exact rest.only e old
  · have old : PassEvent.started j ∈ events := by simpa using mem
    exact (rest.checked j old).cons _

/-- A start check that took the row, and the start of its thread. -/
theorem Handouts.taken {events : List PassEvent} (rest : Handouts events) (i : Nat) :
    Handouts (.checked i (some (.returned (true, none))) :: .started i :: events) := by
  refine ⟨fun e mem => ?_, fun j mem => ?_⟩
  · simp only [List.mem_cons] at mem
    rcases mem with rfl | rfl | old
    · rfl
    · rfl
    · exact rest.only e old
  · simp only [List.mem_cons, reduceCtorEq, false_or, PassEvent.started.injEq] at mem
    rcases mem with rfl | old
    · exact List.Sublist.cons_cons _ (List.Sublist.cons_cons _ (List.nil_sublist _))
    · exact ((rest.checked j old).cons _).cons _

theorem launchRowsTraced_handouts (ctx : Ctx) (db : Option Nat) (now : Instant) (fuel : Nat) (w : Worker)
    (b : Backend) : Handouts ((launchRowsTraced ctx db now fuel w).run b).1.2 := by
  fun_induction launchRowsTraced ctx db now fuel w generalizing b with
  | case1 => exact handouts_nil
  | case2 => exact handouts_nil
  | case3 => exact handouts_nil
  | case4 =>
      rename_i ih
      exact ih b
  | case5 =>
      rename_i ih
      exact ih b
  | case6 =>
      rename_i i ts _ ih
      simp only [BackendM.run_bind]
      generalize ((ts.get i).executor.start ctx _ now).run _ = checked
      obtain ⟨⟨o, e⟩, b₁⟩ := checked
      dsimp only
      split
      · rename_i taken
        rw [(Call.taken_eq_true o).mp taken]
        simp only [BackendM.run_bind, BackendM.run_pure, List.singleton_append]
        exact (ih _ _).taken i
      · simp only [BackendM.run_bind, BackendM.run_pure, List.nil_append]
        exact (ih _ _).refused i o

theorem startJobsTraced_handouts (w : Worker) (ctx : Ctx) (db : Option Nat) (now : Instant) (b : Backend) :
    Handouts ((w.startJobsTraced ctx db now).run b).1.2 := by
  simp only [startJobsTraced]
  split
  · exact handouts_nil
  · simp only [BackendM.run_bind]
    generalize (w.queue.query _ ctx _ _).run _ = polled
    obtain ⟨⟨err, q⟩, b₂⟩ := polled
    cases err with
    | some e => exact handouts_nil
    | none =>
        simp only [BackendM.run_bind, BackendM.run_pure]
        exact launchRowsTraced_handouts ctx db now _ _ _

/-- What a pass can have done, from a loop with switches `mode` (read at least once when
`loaded`), for a worker leaving at `leaves`, leaving the loop with `mode'`: it ended before
reading the switches; or a read failed; or it went on with switches `m`, read or kept, checked
for draining unless `m` pauses jobs, handed out rows only past both gates, and ticked the
clean-up duty only when `m` lets data be updated. -/
inductive PassShape (mode : Mode) (loaded : Bool) (leaves now : Instant) :
    List PassEvent → Mode → Bool → Prop
  | early : PassShape mode loaded leaves now [] mode loaded
  | failed (e : Fault) : PassShape mode loaded leaves now [.loaded (.error e)] mode loaded
  | went (m : Mode) (read gate launched tail : List PassEvent)
      (source : read = [.loaded (.ok m)] ∨ read = [] ∧ loaded = true ∧ mode = m)
      (checks : gate = [] ∨ ∃ g, gate = [.drainChecked g now])
      (admitted : launched ≠ [] → m.paused = false ∧ gate = [.drainChecked false now] ∧ now < leaves)
      (handouts : Handouts launched)
      (ticks : tail = [] ∨ tail = [.cleanTicked] ∧ m.dataUpdateStop = false) :
      PassShape mode loaded leaves now (read ++ gate ++ launched ++ tail) m true

theorem afterStartTraced_events (now : Instant) (st : WorkerLoop) (pre : List PassEvent) (err : Option Fault)
    (w : Worker) (launched : List PassEvent) (b : Backend) :
    ((afterStartTraced now st pre ((err, w), launched)).run b).1.1.2.2 = st ∧
      ∃ tail, ((afterStartTraced now st pre ((err, w), launched)).run b).1.2 = pre ++ launched ++ tail ∧
        (tail = [] ∨ tail = [.cleanTicked] ∧ st.mode.dataUpdateStop = false) := by
  unfold afterStartTraced
  cases err with
  | some e => exact ⟨rfl, [], by simp, .inl rfl⟩
  | none =>
      cases stop : st.mode.dataUpdateStop
      · simp only [Option.isSome_none, Bool.false_eq_true, ↓reduceIte, BackendM.run_bind, BackendM.run_pure]
        exact ⟨trivial, [.cleanTicked], rfl, .inr ⟨rfl, trivial⟩⟩
      · simp only [Option.isSome_none, Bool.false_eq_true, ↓reduceIte, BackendM.run_pure]
        exact ⟨trivial, [], by simp, .inl rfl⟩

/-- Draining is the graceful request, or the terminating time having come. -/
theorem draining_eq_false {w : Worker} {now : Instant} :
    w.draining now = false ↔ w.graceful = false ∧ now.nanos < w.terminatingTime.nanos := by
  unfold draining
  cases w.graceful <;> simp [Instant.le_iff_nanos]

theorem afterStartTraced_shape {mode m : Mode} {loaded : Bool} {leaves now : Instant} {st : WorkerLoop}
    (moded : st.mode = m) (read gate launched : List PassEvent)
    (source : read = [.loaded (.ok m)] ∨ read = [] ∧ loaded = true ∧ mode = m)
    (checks : gate = [] ∨ ∃ g, gate = [.drainChecked g now])
    (admitted : launched ≠ [] → m.paused = false ∧ gate = [.drainChecked false now] ∧ now < leaves)
    (handouts : Handouts launched) (loadedNow : st.modeLoaded = true) (err : Option Fault) (w : Worker)
    (b : Backend) :
    PassShape mode loaded leaves now ((afterStartTraced now st (read ++ gate) ((err, w), launched)).run b).1.2
      ((afterStartTraced now st (read ++ gate) ((err, w), launched)).run b).1.1.2.2.mode
      ((afterStartTraced now st (read ++ gate) ((err, w), launched)).run b).1.1.2.2.modeLoaded := by
  obtain ⟨kept, tail, events, ticks⟩ := afterStartTraced_events now st (read ++ gate) err w launched b
  rw [kept, events, moded, loadedNow]
  exact .went m read gate launched tail source checks admitted handouts (moded ▸ ticks)

theorem afterLoadTraced_shape (ctx : Ctx) (now : Instant) (st : WorkerLoop) (read : List PassEvent)
    (res : Except Fault Mode) (w : Worker) (b : Backend)
    (source : read = [.loaded res] ∨ read = [] ∧ st.modeLoaded = true ∧ res = .ok st.mode) :
    PassShape st.mode st.modeLoaded w.terminatingTime now ((afterLoadTraced ctx now st read (res, w)).run b).1.2
      ((afterLoadTraced ctx now st read (res, w)).run b).1.1.2.2.mode
      ((afterLoadTraced ctx now st read (res, w)).run b).1.1.2.2.modeLoaded := by
  cases res with
  | error e =>
      -- a read that fails was due: the switches are kept only when they read fine
      rcases source with rfl | ⟨-, -, kept⟩
      · exact .failed e
      · cases kept
  | ok m =>
      have read_ok : read = [.loaded (.ok m)] ∨ read = [] ∧ st.modeLoaded = true ∧ st.mode = m := by
        rcases source with rfl | ⟨rfl, loaded, kept⟩
        · exact .inl rfl
        · exact .inr ⟨rfl, loaded, (Except.ok.inj kept).symm⟩
      simp only [afterLoadTraced]
      have checks : (if m.paused = true then [] else [PassEvent.drainChecked w.graceful now]) = [] ∨
          ∃ g, (if m.paused = true then [] else [PassEvent.drainChecked w.graceful now]) = [.drainChecked g now] := by
        split
        · exact .inl rfl
        · exact .inr ⟨w.graceful, rfl⟩
      by_cases stop : (m.paused || w.draining now) = true
      · simp only [stop, ↓reduceIte, Bool.false_eq_true, BackendM.run_bind, BackendM.run_pure]
        exact afterStartTraced_shape rfl read _ [] read_ok checks (fun none => absurd rfl none) handouts_nil rfl
          none w b
      · -- past both gates: the switches do not pause jobs and the worker does not drain
        have open_ : m.paused = false ∧ w.graceful = false ∧ now.nanos < w.terminatingTime.nanos := by
          simp only [Bool.or_eq_true, not_or, Bool.not_eq_true] at stop
          exact ⟨stop.1, draining_eq_false.mp stop.2⟩
        have gate : (if m.paused = true then [] else [PassEvent.drainChecked w.graceful now]) =
            [.drainChecked false now] := by
          simp [open_.1, open_.2.1]
        simp only [stop, Bool.false_eq_true, ↓reduceIte]
        cases (st.queueEvery.passed now).1 && decide (↑w.threads.count < w.settings.maxJobPerProcess)
        · simp only [Bool.false_eq_true, ↓reduceIte, BackendM.run_bind, BackendM.run_pure]
          exact afterStartTraced_shape rfl read _ [] read_ok checks (fun none => absurd rfl none) handouts_nil rfl
            none w b
        · simp only [↓reduceIte, BackendM.run_bind]
          have handouts := startJobsTraced_handouts w ctx st.db now b
          generalize (w.startJobsTraced ctx st.db now).run b = started at handouts ⊢
          obtain ⟨⟨⟨err, w'⟩, launched⟩, b'⟩ := started
          exact afterStartTraced_shape rfl read _ launched read_ok checks
            (fun _ => ⟨open_.1, gate, open_.2.2⟩) handouts rfl err w' b'

theorem connect_frame (w : Worker) (st : WorkerLoop) (b : Backend) :
    ((w.connect st).run b).1.2.1.terminatingTime = w.terminatingTime ∧
      ((w.connect st).run b).1.2.2.mode = st.mode ∧ ((w.connect st).run b).1.2.2.modeLoaded = st.modeLoaded := by
  unfold connect
  dsimp only
  split <;> exact ⟨rfl, rfl, rfl⟩

theorem loadMode_terminatingTime (w : Worker) (ctx : Ctx) (b : Backend) :
    ((w.loadMode ctx).run b).1.2.terminatingTime = w.terminatingTime := rfl

theorem afterConnectTraced_shape (ctx : Ctx) (now : Instant) (err : Option Fault) (w : Worker) (st : WorkerLoop)
    (b : Backend) :
    PassShape st.mode st.modeLoaded w.terminatingTime now ((afterConnectTraced ctx now (err, w, st)).run b).1.2
      ((afterConnectTraced ctx now (err, w, st)).run b).1.1.2.2.mode
      ((afterConnectTraced ctx now (err, w, st)).run b).1.1.2.2.modeLoaded := by
  cases err with
  | some e => exact .early
  | none =>
      simp only [afterConnectTraced, Option.isSome_none, Bool.false_eq_true, ↓reduceIte, BackendM.run_bind]
      generalize (w.threads.tick now).run b = ticked
      obtain ⟨ts, b₁⟩ := ticked
      have read : ∀ st' : WorkerLoop, st'.mode = st.mode → st'.modeLoaded = st.modeLoaded →
          PassShape st.mode st.modeLoaded w.terminatingTime now
            ((({ w with threads := ts } : Worker).loadMode ctx >>= fun r => afterLoadTraced ctx now st' [.loaded r.1] r).run b₁).1.2
            ((({ w with threads := ts } : Worker).loadMode ctx >>= fun r => afterLoadTraced ctx now st' [.loaded r.1] r).run b₁).1.1.2.2.mode
            ((({ w with threads := ts } : Worker).loadMode ctx >>= fun r => afterLoadTraced ctx now st' [.loaded r.1] r).run b₁).1.1.2.2.modeLoaded := by
        intro st' mode loaded
        have kept := loadMode_terminatingTime { w with threads := ts } ctx b₁
        simp only [BackendM.run_bind]
        generalize (({ w with threads := ts } : Worker).loadMode ctx).run b₁ = r at kept ⊢
        obtain ⟨⟨res, w₂⟩, b₂⟩ := r
        have shape := afterLoadTraced_shape ctx now st' [.loaded res] res w₂ b₂ (.inl rfl)
        rw [mode, loaded, kept] at shape
        exact shape
      cases loaded : st.modeLoaded
      · simp only [Bool.not_false, ↓reduceIte]
        exact loaded ▸ read st rfl rfl
      · simp only [Bool.not_true, Bool.false_eq_true, ↓reduceIte]
        cases (st.modeEvery.passed now).1
        · -- not due: the switches the loop kept, read before
          simp only [Bool.false_eq_true, ↓reduceIte, BackendM.run_bind, BackendM.run_pure]
          have shape := afterLoadTraced_shape ctx now { st with modeEvery := (st.modeEvery.passed now).2 } [] (.ok st.mode)
            { w with threads := ts } b₁ (.inr ⟨rfl, loaded, rfl⟩)
          rw [loaded] at shape
          exact shape
        · simp only [↓reduceIte]
          exact loaded ▸ read _ rfl rfl

theorem stepTraced_shape (w : Worker) (st : WorkerLoop) (ctx : Ctx) (now : Instant) (b : Backend) :
    PassShape st.mode st.modeLoaded w.terminatingTime now ((w.stepTraced st ctx now).run b).1.2
      ((w.stepTraced st ctx now).run b).1.1.2.2.mode ((w.stepTraced st ctx now).run b).1.1.2.2.modeLoaded := by
  simp only [stepTraced]
  have rest : ∀ (c : BackendM (Option Fault × Worker × WorkerLoop)),
      (c.run b).1.2.1.terminatingTime = w.terminatingTime → (c.run b).1.2.2.mode = st.mode →
      (c.run b).1.2.2.modeLoaded = st.modeLoaded →
      PassShape st.mode st.modeLoaded w.terminatingTime now ((c >>= afterConnectTraced ctx now).run b).1.2
        ((c >>= afterConnectTraced ctx now).run b).1.1.2.2.mode
        ((c >>= afterConnectTraced ctx now).run b).1.1.2.2.modeLoaded := by
    intro c leaves mode loaded
    simp only [BackendM.run_bind]
    generalize c.run b = r at leaves mode loaded ⊢
    obtain ⟨⟨err, w', st'⟩, b'⟩ := r
    dsimp only at leaves mode loaded ⊢
    have shape := afterConnectTraced_shape ctx now err w' st' b'
    rw [leaves, mode, loaded] at shape
    exact shape
  by_cases due : (st.db.isNone || st.reconnect) = true
  · simp only [due, ↓reduceIte]
    obtain ⟨leaves, mode, loaded⟩ := connect_frame w st b
    exact rest _ leaves mode loaded
  · simp only [due, Bool.false_eq_true, ↓reduceIte]
    cases (st.reconnectEvery.passed now).1
    · simp only [Bool.false_eq_true, ↓reduceIte]
      exact rest _ rfl rfl rfl
    · simp only [↓reduceIte]
      obtain ⟨leaves, mode, loaded⟩ := connect_frame w { st with reconnectEvery := (st.reconnectEvery.passed now).2 } b
      exact rest _ leaves mode loaded

theorem mem_went {now : Instant} {m : Mode} {read gate launched tail : List PassEvent}
    (checks : gate = [] ∨ ∃ g, gate = [.drainChecked g now]) (handouts : Handouts launched)
    (ticks : tail = [] ∨ tail = [.cleanTicked] ∧ m.dataUpdateStop = false) {e : PassEvent}
    (mem : e ∈ read ++ gate ++ launched ++ tail) :
    e ∈ read ∨ (∃ g, e = .drainChecked g now) ∨ (e ∈ launched ∧ e.handout = true) ∨
      (e = .cleanTicked ∧ m.dataUpdateStop = false) := by
  simp only [List.mem_append] at mem
  rcases mem with ((inRead | inGate) | inLaunched) | inTail
  · exact .inl inRead
  · rcases checks with rfl | ⟨g, rfl⟩
    · cases inGate
    · exact .inr (.inl ⟨g, List.mem_singleton.mp inGate⟩)
  · exact .inr (.inr (.inl ⟨inLaunched, handouts.only e inLaunched⟩))
  · rcases ticks with rfl | ⟨rfl, open_⟩
    · cases inTail
    · exact .inr (.inr (.inr ⟨List.mem_singleton.mp inTail, open_⟩))

theorem loaded_mem_went {now : Instant} {m : Mode} {read gate launched tail : List PassEvent}
    (checks : gate = [] ∨ ∃ g, gate = [.drainChecked g now]) (handouts : Handouts launched)
    (ticks : tail = [] ∨ tail = [.cleanTicked] ∧ m.dataUpdateStop = false) {a : Except Fault Mode}
    (mem : .loaded a ∈ read ++ gate ++ launched ++ tail) : .loaded a ∈ read := by
  rcases mem_went checks handouts ticks mem with inRead | ⟨_, clash⟩ | ⟨-, only⟩ | ⟨clash, -⟩
  · exact inRead
  · cases clash
  · cases only
  · cases clash

/-- What the shape of a pass tells: each start passed the draining check and the start check of
its thread; a failed read starts nothing and keeps the switches; the clean-up duty ticks only
when the switches in force let data be updated. -/
theorem PassShape.gates {mode mode' : Mode} {loaded loaded' : Bool} {leaves now : Instant}
    {events : List PassEvent} (shape : PassShape mode loaded leaves now events mode' loaded') :
    (∀ i, .started i ∈ events →
      (.drainChecked false now ∈ events ∧ now < leaves) ∧
      [.checked i (some (.returned (true, none))), .started i].Sublist events) ∧
    (∀ e, .loaded (.error e) ∈ events → (∀ i, .started i ∉ events) ∧ mode' = mode ∧ loaded' = loaded) ∧
    (.cleanTicked ∈ events → mode'.dataUpdateStop = false) := by
  cases shape with
  | early => simp
  | failed e => simp
  | went _ read gate launched tail source checks admitted handouts ticks =>
      refine ⟨fun i started => ?_, fun e failed => ?_, fun ticked => ?_⟩
      · -- a start stands among the handouts, so it was let through both gates
        have inLaunched : .started i ∈ launched := by
          rcases mem_went checks handouts ticks started with inRead | ⟨_, clash⟩ | ⟨inLaunched, -⟩ | ⟨clash, -⟩
          · rcases source with rfl | ⟨rfl, -, -⟩ <;> simp at inRead
          · cases clash
          · exact inLaunched
          · cases clash
        obtain ⟨-, gate_eq, before⟩ := admitted (List.ne_nil_of_mem inLaunched)
        have sublist : [.checked i (some (.returned (true, none))), .started i].Sublist
            (read ++ gate ++ launched ++ tail) :=
          (handouts.checked i inLaunched).trans ((List.sublist_append_right _ _).trans (List.sublist_append_left _ _))
        exact ⟨⟨by simp [gate_eq], before⟩, sublist⟩
      · -- the only read of a pass that went on succeeded
        rcases source with rfl | ⟨rfl, -, -⟩
        · cases List.mem_singleton.mp (loaded_mem_went checks handouts ticks failed)
        · cases loaded_mem_went checks handouts ticks failed
      · rcases mem_went checks handouts ticks ticked with inRead | ⟨_, clash⟩ | ⟨-, only⟩ | ⟨-, open_⟩
        · rcases source with rfl | ⟨rfl, -, -⟩ <;> simp at inRead
        · cases clash
        · cases only
        · exact open_

/-! ## Over a run: the switches in force are those last read fine -/

/-- The switches in force after `e`, from `last` before it: those a read answered, or `last`. -/
def PassEvent.afterRead (last : Option Mode) : PassEvent → Option Mode
  | .loaded (.ok m) => some m
  | _ => last

def PassEvent.isStart : PassEvent → Bool
  | .started _ => true
  | _ => false

/-- Whether each start among `events`, read in order from the switches `last` in force before
them, came while switches read fine and not pausing jobs were in force. -/
def startsUnpaused (last : Option Mode) : List PassEvent → Bool
  | [] => true
  | e :: es => (!e.isStart || last.any fun m => !m.paused) && startsUnpaused (e.afterRead last) es

theorem startsUnpaused_append (last : Option Mode) (xs ys : List PassEvent) :
    startsUnpaused last (xs ++ ys) =
      (startsUnpaused last xs && startsUnpaused (xs.foldl PassEvent.afterRead last) ys) := by
  induction xs generalizing last with
  | nil => simp [startsUnpaused]
  | cons e es ih => simp [startsUnpaused, ih, Bool.and_assoc]

/-- An event that reads no switches leaves the switches in force. -/
theorem afterRead_of_unread {e : PassEvent} (unread : ∀ m, e ≠ .loaded (.ok m)) (last : Option Mode) :
    e.afterRead last = last := by
  cases e with
  | loaded a => cases a <;> simp_all [PassEvent.afterRead]
  | _ => rfl

theorem foldl_afterRead_of_unread {es : List PassEvent} (unread : ∀ e ∈ es, ∀ m, e ≠ .loaded (.ok m))
    (last : Option Mode) : es.foldl PassEvent.afterRead last = last := by
  induction es with
  | nil => rfl
  | cons e es ih =>
      rw [List.foldl_cons, afterRead_of_unread (unread e List.mem_cons_self)]
      exact ih fun e' mem => unread e' (List.mem_cons_of_mem e mem)

theorem startsUnpaused_of_no_starts {es : List PassEvent} (quiet : ∀ e ∈ es, e.isStart = false)
    (last : Option Mode) : startsUnpaused last es = true := by
  induction es generalizing last with
  | nil => rfl
  | cons e es ih =>
      simp only [startsUnpaused, quiet e List.mem_cons_self, Bool.not_false, Bool.true_or, Bool.true_and]
      exact ih (fun e' mem => quiet e' (List.mem_cons_of_mem e mem)) _

theorem startsUnpaused_of_open {es : List PassEvent} (unread : ∀ e ∈ es, ∀ m, e ≠ .loaded (.ok m))
    {m : Mode} (open_ : m.paused = false) : startsUnpaused (some m) es = true := by
  induction es with
  | nil => rfl
  | cons e es ih =>
      simp only [startsUnpaused, afterRead_of_unread (unread e List.mem_cons_self), Option.any_some, open_, Bool.not_false, Bool.or_true, Bool.true_and]
      exact ih fun e' mem => unread e' (List.mem_cons_of_mem e mem)

theorem Handouts.unread {events : List PassEvent} (handouts : Handouts events) :
    ∀ e ∈ events, ∀ m, e ≠ .loaded (.ok m) := by
  intro e mem m same
  have only := handouts.only e mem
  rw [same] at only
  cases only

theorem PassShape.switches {mode mode' : Mode} {loaded loaded' : Bool} {leaves now : Instant}
    {events : List PassEvent} (shape : PassShape mode loaded leaves now events mode' loaded') :
    startsUnpaused (if loaded then some mode else none) events = true ∧
      events.foldl PassEvent.afterRead (if loaded then some mode else none) = if loaded' then some mode' else none := by
  cases shape with
  | early => exact ⟨rfl, rfl⟩
  | failed e => exact ⟨rfl, rfl⟩
  | went _ read gate launched tail source checks admitted handouts ticks =>
      have read_ok : startsUnpaused (if loaded then some mode else none) read = true ∧
          read.foldl PassEvent.afterRead (if loaded then some mode else none) = some mode' := by
        rcases source with rfl | ⟨rfl, rfl, rfl⟩
        · exact ⟨rfl, rfl⟩
        · exact ⟨rfl, rfl⟩
      have gate_quiet : ∀ e ∈ gate, e.isStart = false ∧ ∀ m, e ≠ .loaded (.ok m) := by
        rcases checks with rfl | ⟨g, rfl⟩
        · intro e mem; cases mem
        · intro e mem; simp_all [PassEvent.isStart]
      have tail_quiet : ∀ e ∈ tail, e.isStart = false ∧ ∀ m, e ≠ .loaded (.ok m) := by
        rcases ticks with rfl | ⟨rfl, -⟩
        · intro e mem; cases mem
        · intro e mem; simp_all [PassEvent.isStart]
      have launched_ok : startsUnpaused (some mode') launched = true := by
        by_cases none : launched = []
        · rw [none]; rfl
        · exact startsUnpaused_of_open handouts.unread (admitted none).1
      have gate_kept := foldl_afterRead_of_unread (fun e mem => (gate_quiet e mem).2) (some mode')
      have launched_kept := foldl_afterRead_of_unread handouts.unread (some mode')
      have tail_kept := foldl_afterRead_of_unread (fun e mem => (tail_quiet e mem).2) (some mode')
      simp only [startsUnpaused_append, List.foldl_append, read_ok.1, read_ok.2, gate_kept, launched_kept,
        tail_kept, launched_ok, startsUnpaused_of_no_starts (fun e mem => (gate_quiet e mem).1),
        startsUnpaused_of_no_starts (fun e mem => (tail_quiet e mem).1), Bool.and_self, ↓reduceIte]
      exact ⟨trivial, trivial⟩

end Worker

def WorkerLoop.switches (st : WorkerLoop) : Option Mode := if st.modeLoaded then some st.mode else none

namespace Worker

/-- What the loop does between two looks at its state and the events so far: a pass, under any
worker, context, clock and backend; or asking for a reconnection after a pass that failed. -/
inductive LoopTurn : List PassEvent × WorkerLoop → List PassEvent × WorkerLoop → Prop
  | pass (h : List PassEvent) (st : WorkerLoop) (w : Worker) (ctx : Ctx) (now : Instant) (b : Backend) :
      LoopTurn (h, st) (h ++ ((w.stepTraced st ctx now).run b).1.2, ((w.stepTraced st ctx now).run b).1.1.2.2)
  | reconnect (h : List PassEvent) (st : WorkerLoop) : LoopTurn (h, st) (h, { st with reconnect := true })

/-- Every start so far came under switches read fine that do not pause jobs, and the loop keeps
the switches last read fine. -/
def Admits (x : List PassEvent × WorkerLoop) : Prop :=
  startsUnpaused none x.1 = true ∧ x.1.foldl PassEvent.afterRead none = x.2.switches

theorem LoopTurn.admits {x y : List PassEvent × WorkerLoop} (turn : LoopTurn x y) (inv : Admits x) : Admits y := by
  cases turn with
  | pass h st w ctx now b =>
      obtain ⟨starts, kept⟩ := inv
      obtain ⟨starts', kept'⟩ := (stepTraced_shape w st ctx now b).switches
      refine ⟨?_, ?_⟩
      · rw [startsUnpaused_append, starts, kept]
        exact starts'
      · rw [List.foldl_append, kept]
        exact kept'
  | reconnect h st => exact inv

theorem admits_of_turns {x y : List PassEvent × WorkerLoop} (turns : Relation.ReflTransGen LoopTurn x y)
    (inv : Admits x) : Admits y := by
  induction turns with
  | refl => exact inv
  | tail _ turn ih => exact turn.admits ih

/-- The gates of a worker's pass, the traced pass with its events dropped. Each start passed
the draining check (no graceful stop, the clock before the terminating time) and follows the
start check that took its row; a failed switch read starts nothing and keeps the loop's
switches; the clean-up duty ticks only when the switches let data be updated. Over every run
of the loop, each start came under the switches last read fine, which do not pause jobs, and
the loop keeps them. -/
theorem admission_gates :
    (∀ (w : Worker) (st : WorkerLoop) (ctx : Ctx) (now : Instant) (b : Backend),
      (w.step st ctx now).run b = (((w.stepTraced st ctx now).run b).1.1, ((w.stepTraced st ctx now).run b).2) ∧
      (∀ i, .started i ∈ ((w.stepTraced st ctx now).run b).1.2 →
        (.drainChecked false now ∈ ((w.stepTraced st ctx now).run b).1.2 ∧ now < w.terminatingTime) ∧
        [.checked i (some (.returned (true, none))), .started i].Sublist ((w.stepTraced st ctx now).run b).1.2) ∧
      (∀ e, .loaded (.error e) ∈ ((w.stepTraced st ctx now).run b).1.2 →
        (∀ i, .started i ∉ ((w.stepTraced st ctx now).run b).1.2) ∧
          ((w.stepTraced st ctx now).run b).1.1.2.2.switches = st.switches) ∧
      (.cleanTicked ∈ ((w.stepTraced st ctx now).run b).1.2 →
        ((w.stepTraced st ctx now).run b).1.1.2.2.mode.dataUpdateStop = false)) ∧
    ∀ (s : Settings) (start : Instant) (h : List PassEvent) (st : WorkerLoop),
      Relation.ReflTransGen LoopTurn ([], WorkerLoop.start s start) (h, st) →
      startsUnpaused none h = true ∧ h.foldl PassEvent.afterRead none = st.switches := by
  refine ⟨fun w st ctx now b => ?_, fun s start h st turns => ?_⟩
  · obtain ⟨starts, failed, ticked⟩ := (stepTraced_shape w st ctx now b).gates
    refine ⟨step_eq_traced w st ctx now b, starts, fun e read => ?_, ticked⟩
    obtain ⟨none, mode, loaded⟩ := failed e read
    exact ⟨none, by simp only [WorkerLoop.switches, mode, loaded]⟩
  · -- a loop starts having read no switches and started nothing
    exact admits_of_turns turns ⟨rfl, rfl⟩

/-- Two passes of a worker whose first read of the switches fails and whose second succeeds:
the loop then keeps the switches read, and every start came under switches read fine. -/
theorem admits_after_a_failed_read :
    ∃ h st, Relation.ReflTransGen LoopTurn ([], WorkerLoop.start ⟨default, default, 1, 1, 1, 1, 1, 1, 1, 2, 1, 1, "",
        .every 1, "", [⟨"sync", "sync", 1, 1, none⟩]⟩ .zero) (h, st) ∧
      st.switches.isSome = true ∧ startsUnpaused none h = true ∧ h.foldl PassEvent.afterRead none = st.switches :=
  have first := LoopTurn.pass [] _ (Worker.new ⟨default, default, 1, 1, 1, 1, 1, 1, 1, 2, 1, 1, "", .every 1, "",
      [⟨"sync", "sync", 1, 1, none⟩]⟩ ⟨[⟨⟨"sync", "sync", 1, 1, none⟩, .test⟩], [("sync", 0)]⟩ 1 {} .zero
      (.scripted [.error "down", .ok {}]) {} Dialect.sqlite "") default .zero {}
  have second := LoopTurn.pass _ _ (((Worker.new ⟨default, default, 1, 1, 1, 1, 1, 1, 1, 2, 1, 1, "", .every 1, "",
      [⟨"sync", "sync", 1, 1, none⟩]⟩ ⟨[⟨⟨"sync", "sync", 1, 1, none⟩, .test⟩], [("sync", 0)]⟩ 1 {} .zero
      (.scripted [.error "down", .ok {}]) {} Dialect.sqlite "").stepTraced (WorkerLoop.start ⟨default, default, 1, 1,
      1, 1, 1, 1, 1, 2, 1, 1, "", .every 1, "", [⟨"sync", "sync", 1, 1, none⟩]⟩ .zero) default .zero).run {}).1.1.2.1
    default ⟨5000000000⟩ {}
  have run := (Relation.ReflTransGen.single first).tail second
  ⟨_, _, run, by decide +kernel, admission_gates.2 _ _ _ _ run⟩

end Worker

end Foreman

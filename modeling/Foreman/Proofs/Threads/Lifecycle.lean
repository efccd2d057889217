import Foreman.Proofs.Threads.Moves

/-!
# The life of a job thread

A thread's status is read off its tasks and the clock, never stored. Read along any
interleaving of events at later and later times, it only moves forward (`ThreadStatus.Next`);
`FINISHED` and `CANCELED` are final (`path_final`). The invariant of threads reached from one
that had not run (`Thread.Wf`) keeps the kept pin, the run and the cancellation in step, so the
compensating cancellation starts at most once (`Wf.cancel_started`).
-/

namespace Foreman

set_option autoImplicit false

namespace ThreadStatus

instance : LawfulBEq ThreadStatus where
  eq_of_beq {a b} := by cases a <;> cases b <;> decide
  rfl {a} := by cases a <;> decide

def successors : ThreadStatus → List ThreadStatus
  | .notRunning => [.running]
  | .running => [.timeout, .finished, .canceling, .canceled, .cancellationTimeout]
  | .timeout => [.finished, .canceling, .canceled, .cancellationTimeout]
  | .canceling => [.cancellationTimeout, .canceled]
  | .cancellationTimeout => [.canceling, .canceled]
  | .finished => []
  | .canceled => []

/-- A thread with status `s` can next show status `s'`. -/
def Next (s s' : ThreadStatus) : Prop := s' ∈ s.successors

instance : DecidableRel Next := fun s s' => inferInstanceAs (Decidable (s' ∈ s.successors))

/-- The statuses a thread can show, one after the other. -/
abbrev Path : ThreadStatus → ThreadStatus → Prop := Relation.ReflTransGen Next

theorem path_of_eq_or_next {s s' : ThreadStatus} (move : s = s' ∨ Next s s') : Path s s' := by
  rcases move with rfl | next
  · exact .refl
  · exact .single next

theorem path_of_notRunning (s : ThreadStatus) : Path .notRunning s := by
  cases s with
  | notRunning => exact .refl
  | running => exact path_of_eq_or_next (by decide)
  | _ => exact .head (show Next .notRunning .running by decide) (path_of_eq_or_next (by decide))

/-- A running or overrunning execution may end, or its cancellation may start. -/
theorem path_of_live {s s' : ThreadStatus} (live : s = .running ∨ s = .timeout)
    (after : s' = .finished ∨ s' = .canceling ∨ s' = .canceled ∨ s' = .cancellationTimeout) : Path s s' := by
  rcases live with rfl | rfl <;> rcases after with rfl | rfl | rfl | rfl <;> exact path_of_eq_or_next (by decide)

theorem path_of_cancelling {s s' : ThreadStatus} (cancelling : s = .canceling ∨ s = .cancellationTimeout)
    (after : s' = .canceling ∨ s' = .cancellationTimeout ∨ s' = .canceled) : Path s s' := by
  rcases cancelling with rfl | rfl <;> rcases after with rfl | rfl | rfl <;> exact path_of_eq_or_next (by decide)

theorem path_final {s s' : ThreadStatus} (final : s = .finished ∨ s = .canceled) (path : Path s s') : s' = s := by
  induction path with
  | refl => rfl
  | tail _ next ih =>
      subst ih
      rcases final with rfl | rfl <;> simp [Next, successors] at next

end ThreadStatus

namespace Thread

variable {t : Thread} {now : Instant}

/-! ## The status of each shape of thread -/

theorem status_idle (idle : t.exec = none) : t.status now = .notRunning := by
  simp [Thread.status, idle]

theorem status_live {e : Task} (running : t.exec = some e) (noCancel : t.canc = none) (alive : e.alive = true) :
    t.status now = .running ∨ t.status now = .timeout := by
  simp only [Thread.status, running, noCancel, alive, Bool.true_and]
  split <;> simp

theorem status_finished {e : Task} (running : t.exec = some e) (noCancel : t.canc = none) (ended : e.alive = false) :
    t.status now = .finished := by
  simp [Thread.status, running, noCancel, ended]

theorem status_cancelling {e c : Task} (running : t.exec = some e) (cancelled : t.canc = some c)
    (live : c.alive = true ∨ e.alive = true) :
    t.status now = .canceling ∨ t.status now = .cancellationTimeout := by
  simp only [Thread.status, running, cancelled]
  split
  · exact .inr rfl
  · rcases live with alive | alive <;> simp [alive]

theorem status_of_cancelled {e c : Task} (running : t.exec = some e) (cancelled : t.canc = some c) :
    t.status now = .canceling ∨ t.status now = .cancellationTimeout ∨ t.status now = .canceled := by
  by_cases live : c.alive = true ∨ e.alive = true
  · rcases status_cancelling running cancelled live with s | s
    · exact .inl s
    · exact .inr (.inl s)
  · simp only [not_or, Bool.not_eq_true] at live
    simp [Thread.status, running, cancelled, live.1, live.2]

theorem overran_later {now' : Instant} (later : now ≤ now') (k : Task) (timeout : Int)
    (overran : (k.alive && decide (timeout > 0) && decide (now.since k.start > timeout)) = true) :
    (k.alive && decide (timeout > 0) && decide (now'.since k.start > timeout)) = true := by
  have : now.nanos ≤ now'.nanos := later
  simp only [Bool.and_eq_true, decide_eq_true_eq] at overran ⊢
  simp only [Instant.since] at overran ⊢
  exact ⟨overran.1, by omega⟩

theorem status_later {now' : Instant} (later : now ≤ now') : ThreadStatus.Path (t.status now) (t.status now') := by
  cases exec : t.exec with
  | none => rw [status_idle exec, status_idle exec]
  | some e =>
      cases canc : t.canc with
      | none =>
          simp only [Thread.status, exec, canc]
          by_cases overran :
              (e.alive && decide (t.config.timeout > 0) && decide (now.since e.start > t.config.timeout)) = true
          · rw [if_pos overran, if_pos (overran_later later e _ overran)]
          · rw [if_neg overran]
            split
            · split
              · exact ThreadStatus.path_of_eq_or_next (by decide)
              · rfl
            · rename_i ended
              rw [if_neg (by simp [ended])]
      | some c =>
          simp only [Thread.status, exec, canc]
          by_cases overran :
              (c.alive && decide (t.cancelTimeout > 0) && decide (now.since c.start > t.cancelTimeout)) = true
          · rw [if_pos overran, if_pos (overran_later later c _ overran)]
          · rw [if_neg overran]
            split
            · split
              · exact ThreadStatus.path_of_eq_or_next (by decide)
              · rfl
            · rename_i ended
              have cEnded : c.alive = false := by simp_all
              rw [if_neg (by simp [cEnded])]

theorem resignal_shape : ∃ (again : Task → Task) (signals : Nat),
    (∀ k, (again k).start = k.start ∧ (again k).alive = k.alive) ∧
      t.resignal = { t with exec := t.exec.map again, canc := t.canc.map again, signals := signals } := by
  dsimp only [Thread.resignal]
  split
  · refine ⟨fun k => if k.alive then k.interrupt Fault.jobTimeout else k, _, fun k => ?_, rfl⟩
    by_cases alive : k.alive = true <;> simp [alive]
  · exact ⟨id, t.signals, fun _ => ⟨rfl, rfl⟩, by simp⟩

theorem status_resignal : t.resignal.status now = t.status now := by
  obtain ⟨again, signals, keeps, eq⟩ := resignal_shape (t := t)
  rw [eq]
  cases exec : t.exec with
  | none => simp [Thread.status, exec]
  | some e =>
      cases canc : t.canc with
      | none => simp [Thread.status, exec, canc, (keeps e).1, (keeps e).2]
      | some c => simp [Thread.status, exec, canc, (keeps e).2, (keeps c).1, (keeps c).2]

/-! ## The invariant -/

/-- What holds of every thread that events reach from a thread that had not run. -/
structure Wf (t : Thread) : Prop where
  /-- The pin kept for a cancellation is held only while the execution is alive and no
  cancellation was started. -/
  reserved_live : t.reserved = true → t.canc = none ∧ ∃ e, t.exec = some e ∧ e.alive = true
  /-- A cancellation is started only once the thread ran. -/
  canc_after_run : t.exec = none → t.canc = none
  /-- The counter of cancellations counts the cancellation task. -/
  cancels_eq : t.cancels = if t.canc.isSome then 1 else 0

theorem Fresh.wf (fresh : t.Fresh) : t.Wf where
  reserved_live := by simp [fresh.unreserved]
  canc_after_run := fun _ => fresh.noCancel
  cancels_eq := by simp [fresh.noCancels, fresh.noCancel]

/-- The cancel event either does nothing, or finds the execution alive with the pin kept and
starts the cancellation. -/
theorem cancel_cases (wf : t.Wf) (now : Instant) (b : Backend) :
    ((t.cancel now).run b).1 = t ∨
      t.canc = none ∧ t.reserved = true ∧ ∃ e r w, t.exec = some e ∧ e.alive = true ∧
        ((t.cancel now).run b).1 =
          { t with reserved := false, exec := some (e.interrupt Fault.jobTimeout), cancels := t.cancels + 1,
                   executor := r, canc := some { start := now, waiting := w } } := by
  by_cases unarmed : t.exec = none ∨ t.canc.isSome ∨ t.reserved = false
  · exact .inl (by rw [cancel_of_unarmed unarmed])
  · have armed : t.reserved = true := by simpa using (not_or.mp (not_or.mp unarmed).2).2
    obtain ⟨noCancel, e, running, alive⟩ := wf.reserved_live armed
    obtain ⟨r, w, eq⟩ := cancel_of_armed now b running noCancel armed
    exact .inr ⟨noCancel, armed, e, r, w, running, alive, eq⟩

theorem Step.wf {t' : Thread} (step : Step t t') (wf : t.Wf) : t'.Wf := by
  cases step with
  | launch db now b =>
      cases exec : t.exec with
      | some e => rwa [launch_of_started (by simp [exec])]
      | none =>
          have noCancel := wf.canc_after_run exec
          obtain ⟨executor, w, eq⟩ := launch_of_idle db now b exec noCancel
          rw [eq]
          exact { reserved_live := by cases w <;> simp [noCancel, Task.alive]
                  canc_after_run := by simp
                  cancels_eq := by simpa [noCancel] using wf.cancels_eq }
  | takeRow db ctx now b =>
      obtain ⟨e, eq⟩ := takeRow_run t db ctx now b
      rw [eq]
      exact ⟨wf.reserved_live, wf.canc_after_run, wf.cancels_eq⟩
  | cancel now b =>
      rcases cancel_cases wf now b with same | ⟨noCancel, -, e, r, w, running, -, eq⟩
      · rwa [same]
      · rw [eq]
        exact { reserved_live := by simp
                canc_after_run := by simp
                cancels_eq := by simpa [noCancel] using wf.cancels_eq }
  | resignal =>
      obtain ⟨again, signals, keeps, eq⟩ := resignal_shape (t := t)
      rw [eq]
      refine { reserved_live := fun reserved => ?_
               canc_after_run := fun idle => ?_
               cancels_eq := by simpa using wf.cancels_eq }
      · obtain ⟨noCancel, e, running, alive⟩ := wf.reserved_live reserved
        exact ⟨by simp [noCancel], again e, by simp [running], (keeps e).2.trans alive⟩
      · simp only [Option.map_eq_none_iff] at idle ⊢
        exact wf.canc_after_run idle
  | endExec b running alive =>
      rw [endExec_run]
      refine { reserved_live := fun reserved => ?_
               canc_after_run := by simp [running]
               cancels_eq := wf.cancels_eq }
      simp only [Bool.and_eq_true] at reserved
      obtain ⟨noCancel, -⟩ := wf.reserved_live reserved.1
      simp [noCancel] at reserved
  | endCanc b cancelled alive =>
      rw [endCanc_run]
      have unreserved : t.reserved = false := by
        cases reserved : t.reserved with
        | false => rfl
        | true => simp [(wf.reserved_live reserved).1] at cancelled
      exact { reserved_live := by simp [unreserved]
              canc_after_run := fun idle => by simp [wf.canc_after_run idle]
              cancels_eq := by simpa using wf.cancels_eq }

theorem Step.path {t' : Thread} (step : Step t t') (wf : t.Wf) (now : Instant) :
    ThreadStatus.Path (t.status now) (t'.status now) := by
  cases step with
  | launch db at_ b =>
      cases exec : t.exec with
      | some e => rw [launch_of_started (by simp [exec])]
      | none =>
          rw [status_idle exec]
          exact ThreadStatus.path_of_notRunning _
  | takeRow db ctx at_ b =>
      obtain ⟨e, eq⟩ := takeRow_run t db ctx at_ b
      rw [eq]
      rfl
  | cancel at_ b =>
      rcases cancel_cases wf at_ b with same | ⟨noCancel, -, e, r, w, running, alive, eq⟩
      · rw [same]
      · -- the execution is still alive when its cancellation starts
        have after : ((t.cancel at_).run b).1.status now = .canceling ∨
            ((t.cancel at_).run b).1.status now = .cancellationTimeout :=
          status_cancelling (e := e.interrupt Fault.jobTimeout) (c := { start := at_, waiting := w }) (by rw [eq])
            (by rw [eq]) (.inr (by simpa using alive))
        refine ThreadStatus.path_of_live (status_live running noCancel alive) ?_
        rcases after with s | s
        · exact .inr (.inl s)
        · exact .inr (.inr (.inr s))
  | resignal => rw [status_resignal]
  | @endExec b e running alive =>
      have exec' : (t.endExec.run b).1.exec = some { e with waiting := none } := by rw [endExec_run, running]; rfl
      have canc' : (t.endExec.run b).1.canc = t.canc := by rw [endExec_run]
      cases canc : t.canc with
      | none =>
          exact ThreadStatus.path_of_live (status_live running canc alive)
            (.inl (status_finished exec' (canc'.trans canc) rfl))
      | some c =>
          exact ThreadStatus.path_of_cancelling (status_cancelling running canc (.inr alive))
            (status_of_cancelled exec' (canc'.trans canc))
  | @endCanc b c cancelled alive =>
      have canc' : (t.endCanc.run b).1.canc = some { c with waiting := none } := by rw [endCanc_run, cancelled]; rfl
      have exec' : (t.endCanc.run b).1.exec = t.exec := by rw [endCanc_run]
      obtain ⟨e, running⟩ := Option.ne_none_iff_exists'.mp
        (fun idle => by simp [wf.canc_after_run idle] at cancelled)
      exact ThreadStatus.path_of_cancelling (status_cancelling running cancelled (.inl alive))
        (status_of_cancelled (exec'.trans running) canc')

theorem Reaches.wf_path {t' : Thread} (reaches : Reaches t t') (wf : t.Wf) (now : Instant) :
    t'.Wf ∧ ThreadStatus.Path (t.status now) (t'.status now) := by
  induction reaches with
  | refl => exact ⟨wf, .refl⟩
  | tail _ step ih => exact ⟨step.wf ih.1, ih.2.trans (step.path ih.1 now)⟩

theorem Wf.cancel_started {t' : Thread} (wf : t.Wf) (step : Step t t') (before : t.canc = none)
    (after : t'.canc ≠ none) :
    (∃ now b, t' = ((t.cancel now).run b).1) ∧ t.reserved = true ∧ ∃ e, t.exec = some e ∧ e.alive = true := by
  cases step with
  | launch db now b =>
      cases exec : t.exec with
      | some e => rw [launch_of_started (by simp [exec])] at after; exact absurd before after
      | none =>
          obtain ⟨executor, w, eq⟩ := launch_of_idle db now b exec before
          rw [eq] at after
          exact absurd before after
  | takeRow db ctx now b =>
      obtain ⟨e, eq⟩ := takeRow_run t db ctx now b
      rw [eq] at after
      exact absurd before after
  | cancel now b =>
      rcases cancel_cases wf now b with same | ⟨-, armed, e, -, -, running, alive, -⟩
      · rw [same] at after; exact absurd before after
      · exact ⟨⟨now, b, rfl⟩, armed, e, running, alive⟩
  | resignal =>
      obtain ⟨again, signals, -, eq⟩ := resignal_shape (t := t)
      rw [eq] at after
      simp [before] at after
  | endExec b _ _ =>
      rw [endExec_run] at after
      exact absurd before after
  | endCanc b cancelled _ => simp [before] at cancelled

end Thread

/-! ## The threads of a collection -/

/-- The life of every thread a worker drives, over a collection built from a new one by any
operations and any later collection: a thread's cancellation starts at most once, from a
cancel event finding the execution alive and the pin kept; `FINISHED` and `CANCELED` stay at
every later reading; and statuses read at two times, the later on the later collection,
follow the documented changes. -/
theorem thread_lifecycle {cat : Catalog JobType} {cancelTimeout pollInterval : Int} {ts ts' : Threads}
    (built : Relation.ReflTransGen Threads.Step (Threads.new cat cancelTimeout pollInterval) ts)
    (run : Relation.ReflTransGen Threads.Step ts ts') {i : Nat} (numbered : i < ts.all.length)
    {now now' : Instant} (later : now ≤ now') :
    (ts'.get i).cancels ≤ 1 ∧
      (∀ t t' : Thread, Thread.Reaches (ts.get i) t → Thread.Step t t' → t.canc = none → t'.canc ≠ none →
        (∃ at_ b, t' = ((t.cancel at_).run b).1) ∧ t.reserved = true ∧ ∃ e, t.exec = some e ∧ e.alive = true) ∧
      ((ts.get i).status now = .finished ∨ (ts.get i).status now = .canceled →
        (ts'.get i).status now' = (ts.get i).status now) ∧
      ThreadStatus.Path ((ts.get i).status now) ((ts'.get i).status now') := by
  obtain ⟨t₀, fresh, fromFresh⟩ := Threads.Step.reaches_from_fresh built i
  have wf : (ts.get i).Wf := (fromFresh.wf_path fresh.wf now).1
  obtain ⟨wf', path⟩ := ((Threads.Step.run_moves run).2 i numbered).wf_path wf now
  have path' := path.trans (Thread.status_later (t := ts'.get i) later)
  refine ⟨?_, fun t t' reaches step before after => ?_, fun final => ThreadStatus.path_final final path', path'⟩
  · rw [wf'.cancels_eq]
    split <;> omega
  · exact (reaches.wf_path wf now).1.cancel_started step before after

/-- A thread whose row is taken and whose execution then waits past its timeout: the next tick
cancels it once, and when the execution returns it reads as cancelled. -/
theorem thread_lifecycle_timed_out :
    ∃ ts ts', Relation.ReflTransGen Threads.Step
        (Threads.new ⟨[⟨⟨"a", "test_job1", 10, 1, none⟩, .test⟩], [("a", 0)]⟩ 1 1) ts ∧
      Relation.ReflTransGen Threads.Step ts ts' ∧ (ts.get 0).status ⟨0⟩ = .notRunning ∧
      (ts'.get 0).status ⟨100⟩ = .canceled ∧ (ts'.get 0).cancels ≤ 1 ∧
      ThreadStatus.Path ((ts.get 0).status ⟨0⟩) ((ts'.get 0).status ⟨100⟩) :=
  have built := Relation.ReflTransGen.single (Threads.Step.prepare
    (Threads.new ⟨[⟨⟨"a", "test_job1", 10, 1, none⟩, .test⟩], [("a", 0)]⟩ 1 1) { job := "a" }
    (fun _ row => .ok (.scripted ⟨row, .started true none, .untilDone, .ok, 0, 0, 0, 0⟩)) rfl)
  have run := ((((Relation.ReflTransGen.single (Threads.Step.takeRow _ 0 none Ctx.live ⟨0⟩ {})).tail
    (.start _ 0 none ⟨0⟩ {})).tail (.tick _ ⟨100⟩ {})).tail (.endExec _ 0 {} rfl rfl))
  have life := thread_lifecycle built run (by decide) (show (⟨0⟩ : Instant) ≤ ⟨100⟩ by decide)
  ⟨_, _, built, run, by decide +kernel, by decide +kernel, life.1, life.2.2.2⟩

end Foreman

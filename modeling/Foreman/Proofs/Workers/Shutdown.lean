import Mathlib.Logic.Relation
import Foreman.Proofs.Workers.Election

/-!
# How a supervisor stops its workers

A supervisor's run shares its state with callers, which set a stop flag (graceful or
immediate) and put a token into a one-token wake-up slot, with its context, and with exiting
workers; `ShutdownRun.Step` is one step of one of them. The run's own steps follow
`Supervisor.rounds` and `Supervisor.terminateWorkers`: rounds and waits while nothing stops it;
at once (`ShutdownRun.atOnce`) a SIGTERM to every live worker; otherwise a SIGINT and a drain,
cut short by an immediate request, then a SIGTERM to the workers still live.

The main statement is `shutdown_signals`; an immediate request is never lost (`Inv.awake`).
-/

namespace Foreman

set_option autoImplicit false

/-! ## Live workers -/

namespace Pool

/-- The workers whose process has not exited, in the pool's order. -/
def live (p : Pool) : List PoolMember := p.workers.filter fun w => !w.process.exited

theorem live_eq_nil {p : Pool} : p.live = [] ↔ ∀ w ∈ p.workers, w.process.exited = true := by
  simp [live, List.filter_eq_nil_iff]

/-- Acting on the workers with one process id changes those and keeps the others. -/
theorem onWorker_workers (p : Pool) (pid : Int) (f : PoolMember → Option Fault × PoolMember) :
    (p.onWorker pid f).2.workers = p.workers.map fun w => if w.pid == pid then (f w).2 else w := by
  have fold : ∀ (ws : List PoolMember) (acc : Option Fault × List PoolMember),
      (ws.foldl (fun acc w => if w.pid == pid then ((acc.1.or (f w).1), acc.2 ++ [(f w).2])
        else (acc.1, acc.2 ++ [w])) acc).2 = acc.2 ++ ws.map fun w => if w.pid == pid then (f w).2 else w := by
    intro ws
    induction ws with
    | nil => simp
    | cons w ws ih =>
        intro acc
        rw [List.foldl_cons, ih]
        split <;> simp_all
  exact fold p.workers (none, [])

theorem live_exit_nil {p : Pool} (pid : Int) (none_live : p.live = []) :
    (p.onWorker pid fun w => (none, w.exit)).2.live = [] := by
  rw [live_eq_nil] at none_live ⊢
  rw [onWorker_workers]
  intro w' mem
  obtain ⟨w, inPool, rfl⟩ := List.mem_map.mp mem
  split
  · rfl
  · exact none_live w inPool

end Pool

/-! ## The failures of a round -/

namespace Supervisor

/-- A failure a round reports: the shared record lost, or a worker that could not be started. -/
def RoundFailure (e : Fault) : Prop :=
  (∃ msg, e = lost msg) ∨ ∃ cause : Fault, e = cause.wrap "spawn worker"

theorem spawn_failure (now : Instant) :
    ∀ (n : Nat) (p p' : Pool) (e : Fault), spawn now n p = (some e, p') → ∃ cause : Fault, e = cause.wrap "spawn worker"
  | 0, p, p', e, spawned => by simp [spawn] at spawned
  | n + 1, p, p', e, spawned => by
      unfold spawn at spawned
      split at spawned
      · rename_i cause _ _
        exact ⟨cause, (Prod.mk.inj spawned).1 |> Option.some.inj |>.symm⟩
      · exact spawn_failure now n _ p' e spawned

theorem fill_immediate (v : Supervisor) (now : Instant) : (v.fill now).2.immediate = v.immediate := by
  unfold fill
  split
  · rename_i checked
    exact (congrArg (fun c => c.2.immediate) checked).symm
  · rename_i checked
    have kept : _ = v.immediate := (congrArg (fun c => c.2.immediate) checked).symm
    dsimp only
    split <;> exact kept

theorem fill_failure {v v' : Supervisor} {now : Instant} {e : Fault} (filled : v.fill now = (some e, v')) :
    RoundFailure e := by
  unfold fill at filled
  split at filled
  · rename_i lostFault _ checked
    obtain ⟨same, -⟩ := Prod.mk.inj filled
    cases same
    unfold check at checked
    dsimp only at checked
    split at checked
    · cases (Prod.mk.inj checked).1
    · obtain ⟨same, -⟩ := Prod.mk.inj checked
      cases same
      exact .inl ⟨_, rfl⟩
  · dsimp only at filled
    split at filled
    · rename_i _ spawned
      obtain ⟨same, -⟩ := Prod.mk.inj filled
      cases same
      exact .inr (spawn_failure now _ _ _ _ spawned)
    · cases (Prod.mk.inj filled).1

end Supervisor

/-! ## The run and the threads around it -/

/-- Where a supervisor's run stands; `fatal` is the failure of the round that ended the loop,
which the run returns. -/
inductive RunStage where
  /-- About to test whether a stop was asked for. -/
  | test
  /-- After a round, waiting for a token, the timer or the context. -/
  | waiting
  /-- The loop is over; the way to stop is not chosen yet. -/
  | stopping (fatal : Option Fault)
  /-- Interrupts sent; the drain waits until no worker is live. -/
  | draining (fatal : Option Fault)
  /-- The drain is over; the immediate flag is to be read again. -/
  | drained (fatal : Option Fault)
  /-- Terminates sent; waiting until no worker is live. -/
  | killing (fatal : Option Fault)
  /-- The run returned `fatal`. -/
  | returned (fatal : Option Fault)

/-- Whether the loop still runs: nothing is sent before it ends. -/
def RunStage.looping : RunStage → Bool
  | .test | .waiting | .stopping _ => true
  | _ => false

def RunStage.fatal : RunStage → Option Fault
  | .test | .waiting => none
  | .stopping f | .draining f | .drained f | .killing f | .returned f => f

inductive Drainer where
  /-- Not started, or gone. -/
  | off
  /-- Waiting for a token or the end of the drain. -/
  | listening
  /-- Took a token; about to read the immediate flag. -/
  | checking

/-- The state of a supervisor's run and of the threads around it. `sent` notes each signal the
run sent, with the workers it went to. -/
structure ShutdownRun where
  sup : Supervisor
  /-- The wake-up slot holds a token. -/
  token : Bool := false
  /-- Callers that set their flag and have not put their token yet. -/
  poking : Nat := 0
  cancelled : Bool := false
  ready : Bool := false
  stage : RunStage := .test
  drainer : Drainer := .off
  /-- The drain's context was cancelled by its thread. -/
  cut : Bool := false
  sent : List (Signal × List PoolMember) := []

namespace ShutdownRun

def start (v : Supervisor) : ShutdownRun := { sup := v }

/-- Whether a stop was asked for, or the context was cancelled. -/
def asked (r : ShutdownRun) : Bool := r.sup.graceful || r.sup.immediate || r.cancelled

/-- Whether the run stops its workers at once: a round failed, an immediate request was made,
or the context was cancelled with no graceful request. -/
def atOnce (r : ShutdownRun) (fatal : Option Fault) : Bool :=
  fatal.isSome || r.sup.immediate || (r.cancelled && !r.sup.graceful)

/-- The notices after a good round: ready after the first, then the status. -/
def report (r : ShutdownRun) (v : Supervisor) (now : Instant) : Supervisor :=
  let v := if r.ready then v else v.notify .ready
  v.notify (.status (v.statusLine now))

/-- Sends a signal to every live worker, noting the workers it went to. -/
def send (r : ShutdownRun) (now : Instant) (s : Signal) : ShutdownRun :=
  { r with sup := { r.sup with pool := (r.sup.pool.signalAll now s).2 }, sent := r.sent ++ [(s, r.sup.pool.live)] }

def reaped (r : ShutdownRun) (now : Instant) : ShutdownRun := { r with sup := { r.sup with pool := r.sup.pool.reap now } }

/-- One step of the run, of a caller, of the context, of a worker or of the drain's thread. -/
inductive Step : ShutdownRun → ShutdownRun → Prop
  /-- A caller asks for a graceful stop: its flag first, its token later. -/
  | graceful (r : ShutdownRun) : Step r { r with sup := { r.sup with graceful := true }, poking := r.poking + 1 }
  /-- A caller asks to stop at once. -/
  | immediate (r : ShutdownRun) : Step r { r with sup := { r.sup with immediate := true }, poking := r.poking + 1 }
  /-- A caller puts its token; into a full slot it is dropped. -/
  | poke (r : ShutdownRun) (pending : 0 < r.poking) : Step r { r with poking := r.poking - 1, token := true }
  | cancel (r : ShutdownRun) : Step r { r with cancelled := true }
  /-- A worker's process leaves of its own accord. -/
  | exit (r : ShutdownRun) (pid : Int) :
      Step r { r with sup := { r.sup with pool := (r.sup.pool.onWorker pid fun w => (none, w.exit)).2 } }
  /-- The loop sees a stop asked for, and ends. -/
  | stop (r : ShutdownRun) (at_ : r.stage = .test) (asked : r.asked = true) : Step r { r with stage := .stopping none }
  /-- A round fails, and the loop ends on its failure. -/
  | fail (r : ShutdownRun) (now : Instant) (e : Fault) (v : Supervisor) (at_ : r.stage = .test)
      (asked : r.asked = false) (filled : r.sup.fill now = (some e, v)) :
      Step r { r with sup := v, stage := .stopping (some e) }
  /-- A round succeeds, and the run reports. -/
  | round (r : ShutdownRun) (now : Instant) (v : Supervisor) (at_ : r.stage = .test) (asked : r.asked = false)
      (filled : r.sup.fill now = (none, v)) : Step r { r with sup := r.report v now, ready := true, stage := .waiting }
  /-- The wait takes the token in the slot. -/
  | wake (r : ShutdownRun) (at_ : r.stage = .waiting) (full : r.token = true) :
      Step r { r with token := false, stage := .test }
  /-- The wait ends on the timer or the context. -/
  | timer (r : ShutdownRun) (at_ : r.stage = .waiting) : Step r { r with stage := .test }
  /-- The run stops at once: a SIGTERM to every live worker. -/
  | terminate (r : ShutdownRun) (now : Instant) (fatal : Option Fault) (at_ : r.stage = .stopping fatal)
      (atOnce : r.atOnce fatal = true) :
      Step r { { r with sup := r.sup.notify .stopping }.send now .terminate with stage := .killing fatal }
  /-- The run stops gracefully: the drain's thread starts, and a SIGINT goes to every live worker. -/
  | interrupt (r : ShutdownRun) (now : Instant) (fatal : Option Fault) (at_ : r.stage = .stopping fatal)
      (atOnce : r.atOnce fatal = false) :
      Step r { { r with sup := r.sup.notify .stopping }.send now .interrupt with
        stage := .draining fatal, drainer := .listening }
  /-- The drain's thread takes the token in the slot. -/
  | receive (r : ShutdownRun) (listening : r.drainer = .listening) (full : r.token = true) :
      Step r { r with token := false, drainer := .checking }
  /-- The drain's thread sees the immediate flag, cuts the drain short and leaves. -/
  | seeImmediate (r : ShutdownRun) (checking : r.drainer = .checking) (flag : r.sup.immediate = true) :
      Step r { r with cut := true, drainer := .off }
  /-- The drain's thread sees no immediate request and listens again. -/
  | seeNothing (r : ShutdownRun) (checking : r.drainer = .checking) (flag : r.sup.immediate = false) :
      Step r { r with drainer := .listening }
  /-- The drain is over, and its thread leaves. -/
  | quit (r : ShutdownRun) (listening : r.drainer = .listening) (ended : ∀ fatal, r.stage ≠ .draining fatal) :
      Step r { r with drainer := .off }
  /-- The drain reaps, and live workers are left. -/
  | drainWait (r : ShutdownRun) (now : Instant) (fatal : Option Fault) (at_ : r.stage = .draining fatal)
      (left : (r.reaped now).sup.pool.live ≠ []) : Step r (r.reaped now)
  /-- The drain reaps, and no live worker is left. -/
  | drainEmpty (r : ShutdownRun) (now : Instant) (fatal : Option Fault) (at_ : r.stage = .draining fatal)
      (empty : (r.reaped now).sup.pool.live = []) : Step r { r.reaped now with stage := .drained fatal }
  /-- The drain's context was cancelled: the drain is over. -/
  | cutShort (r : ShutdownRun) (fatal : Option Fault) (at_ : r.stage = .draining fatal) (cut : r.cut = true) :
      Step r { r with stage := .drained fatal }
  /-- After the drain the immediate flag is set: a SIGTERM to every worker still live. -/
  | escalate (r : ShutdownRun) (now : Instant) (fatal : Option Fault) (at_ : r.stage = .drained fatal)
      (flag : r.sup.immediate = true) : Step r { r.send now .terminate with stage := .killing fatal }
  /-- After the drain no immediate request was made: the run returns. -/
  | finish (r : ShutdownRun) (fatal : Option Fault) (at_ : r.stage = .drained fatal)
      (flag : r.sup.immediate = false) : Step r { r with stage := .returned fatal }
  /-- The run reaps, and live workers are left. -/
  | killWait (r : ShutdownRun) (now : Instant) (fatal : Option Fault) (at_ : r.stage = .killing fatal)
      (left : (r.reaped now).sup.pool.live ≠ []) : Step r (r.reaped now)
  /-- The run reaps, no live worker is left, and it returns. -/
  | killEmpty (r : ShutdownRun) (now : Instant) (fatal : Option Fault) (at_ : r.stage = .killing fatal)
      (empty : (r.reaped now).sup.pool.live = []) : Step r { r.reaped now with stage := .returned fatal }

/-! ## What every reachable state keeps -/

/-- What holds of every state a run reaches. -/
structure Inv (r : ShutdownRun) : Prop where
  /-- While the loop runs nothing is sent, and no drain has started. -/
  quiet : r.stage.looping = true → r.sent = [] ∧ r.cut = false ∧ r.drainer = .off
  /-- The drain's thread cuts a drain short only on an immediate request. -/
  cut_immediate : r.cut = true → r.sup.immediate = true
  /-- While the drain runs its thread runs, until it cut the drain short. -/
  drainer_on : ∀ fatal, r.stage = .draining fatal → r.drainer = .off → r.cut = true
  /-- The drain's thread never waits with the immediate flag set and no token on its way. -/
  awake : ∀ fatal, r.stage = .draining fatal → r.drainer = .listening → r.token = false → r.poking = 0 →
    r.sup.immediate = false
  /-- A drain ends with no worker live, or on an immediate request. -/
  drained : ∀ fatal, r.stage = .drained fatal → r.sup.immediate = true ∨ r.sup.pool.live = []
  /-- A run returns with no worker live. -/
  returned : ∀ fatal, r.stage = .returned fatal → r.sup.pool.live = []
  /-- The failure a run carries is a round's. -/
  failure : ∀ e, r.stage.fatal = some e → Supervisor.RoundFailure e

/-- While the loop runs, `Inv` asks only that nothing was sent, no drain was cut and the drain's
thread has not started, and that the failure carried is a round's. -/
theorem inv_of_loop {r : ShutdownRun} (looping : r.stage.looping = true)
    (quiet : r.sent = [] ∧ r.cut = false ∧ r.drainer = .off)
    (failure : ∀ e, r.stage.fatal = some e → Supervisor.RoundFailure e) : r.Inv where
  quiet _ := quiet
  cut_immediate cut := nomatch quiet.2.1.symm.trans cut
  drainer_on _ at_ := by rw [at_] at looping; cases looping
  awake _ at_ := by rw [at_] at looping; cases looping
  drained _ at_ := by rw [at_] at looping; cases looping
  returned _ at_ := by rw [at_] at looping; cases looping
  failure := failure

theorem inv_of_killing {r : ShutdownRun} {fatal : Option Fault} (at_ : r.stage = .killing fatal)
    (cut_immediate : r.cut = true → r.sup.immediate = true)
    (failure : ∀ e, r.stage.fatal = some e → Supervisor.RoundFailure e) : r.Inv where
  quiet looping := by rw [at_] at looping; cases looping
  cut_immediate := cut_immediate
  drainer_on _ at' := nomatch at_.symm.trans at'
  awake _ at' := nomatch at_.symm.trans at'
  drained _ at' := nomatch at_.symm.trans at'
  returned _ at' := nomatch at_.symm.trans at'
  failure := failure

theorem inv_of_returned {r : ShutdownRun} {fatal : Option Fault} (at_ : r.stage = .returned fatal)
    (cut_immediate : r.cut = true → r.sup.immediate = true) (empty : r.sup.pool.live = [])
    (failure : ∀ e, r.stage.fatal = some e → Supervisor.RoundFailure e) : r.Inv where
  quiet looping := by rw [at_] at looping; cases looping
  cut_immediate := cut_immediate
  drainer_on _ at' := nomatch at_.symm.trans at'
  awake _ at' := nomatch at_.symm.trans at'
  drained _ at' := nomatch at_.symm.trans at'
  returned _ _ := empty
  failure := failure

theorem inv_start (v : Supervisor) : (start v).Inv := inv_of_loop rfl ⟨rfl, rfl, rfl⟩ fun _ none => nomatch none

/-- Every step keeps `Inv`: the callers' and the workers' steps only set flags, put tokens and
end processes; the run's and the drain thread's steps each keep what their stage needs. -/
theorem Inv.step {r r' : ShutdownRun} (inv : r.Inv) (step : Step r r') : r'.Inv := by
  cases step with
  | graceful => exact { inv with awake := fun _ _ _ _ none => absurd none (Nat.succ_ne_zero _) }
  | immediate =>
      exact { inv with
        cut_immediate := fun _ => rfl
        awake := fun _ _ _ _ none => absurd none (Nat.succ_ne_zero _)
        drained := fun _ _ => .inl rfl }
  | poke pending => exact { inv with awake := fun _ _ _ empty => nomatch empty }
  | cancel => exact { inv with }
  | exit pid =>
      exact { inv with
        drained := fun fatal at_ => (inv.drained fatal at_).imp_right (Pool.live_exit_nil pid)
        returned := fun fatal at_ => Pool.live_exit_nil pid (inv.returned fatal at_) }
  | stop at_ asked =>
      obtain ⟨sent, cut, off⟩ := inv.quiet (by rw [at_]; rfl)
      exact inv_of_loop rfl ⟨sent, cut, off⟩ fun _ none => nomatch none
  | fail now e v at_ asked filled =>
      obtain ⟨sent, cut, off⟩ := inv.quiet (by rw [at_]; rfl)
      exact inv_of_loop rfl ⟨sent, cut, off⟩ fun _ same => Option.some.inj same ▸ Supervisor.fill_failure filled
  | round now v at_ asked filled =>
      obtain ⟨sent, cut, off⟩ := inv.quiet (by rw [at_]; rfl)
      exact inv_of_loop rfl ⟨sent, cut, off⟩ fun _ none => nomatch none
  | wake at_ full =>
      obtain ⟨sent, cut, off⟩ := inv.quiet (by rw [at_]; rfl)
      exact inv_of_loop rfl ⟨sent, cut, off⟩ fun _ none => nomatch none
  | timer at_ =>
      obtain ⟨sent, cut, off⟩ := inv.quiet (by rw [at_]; rfl)
      exact inv_of_loop rfl ⟨sent, cut, off⟩ fun _ none => nomatch none
  | terminate now fatal at_ chosen =>
      obtain ⟨-, cut, -⟩ := inv.quiet (by rw [at_]; rfl)
      exact inv_of_killing rfl (fun cut' => absurd (cut.symm.trans cut') Bool.false_ne_true)
        fun e carried => inv.failure e (by rw [at_]; exact carried)
  | interrupt now fatal at_ chosen =>
      obtain ⟨-, cut, -⟩ := inv.quiet (by rw [at_]; rfl)
      have calm : r.sup.immediate = false := by
        simp only [ShutdownRun.atOnce, Bool.or_eq_false_iff] at chosen
        exact chosen.1.2
      exact {
        quiet := fun looping => nomatch looping
        cut_immediate := fun cut' => absurd (cut.symm.trans cut') Bool.false_ne_true
        drainer_on := fun _ _ off => nomatch off
        awake := fun _ _ _ _ _ => calm
        drained := fun _ at_ => nomatch at_
        returned := fun _ at_ => nomatch at_
        failure := fun e carried => inv.failure e (by rw [at_]; exact carried) }
  | receive listening full =>
      exact { inv with
        quiet := fun looping => nomatch listening.symm.trans (inv.quiet looping).2.2
        drainer_on := fun _ _ off => nomatch off
        awake := fun _ _ checking => nomatch checking }
  | seeImmediate checking flag =>
      exact { inv with
        quiet := fun looping => nomatch checking.symm.trans (inv.quiet looping).2.2
        cut_immediate := fun _ => flag
        drainer_on := fun _ _ _ => rfl
        awake := fun _ _ off => nomatch off }
  | seeNothing checking flag =>
      exact { inv with
        quiet := fun looping => nomatch checking.symm.trans (inv.quiet looping).2.2
        drainer_on := fun _ _ off => nomatch off
        awake := fun _ _ _ _ _ => flag }
  | quit listening ended =>
      exact { inv with
        quiet := fun looping => nomatch listening.symm.trans (inv.quiet looping).2.2
        drainer_on := fun fatal at_ _ => absurd at_ (ended fatal)
        awake := fun _ _ off => nomatch off }
  | drainWait now fatal at_ left =>
      exact { inv with
        drained := fun _ at' => nomatch at_.symm.trans at'
        returned := fun _ at' => nomatch at_.symm.trans at' }
  | drainEmpty now fatal at_ empty =>
      exact { inv with
        quiet := fun looping => nomatch looping
        drainer_on := fun _ at_ => nomatch at_
        awake := fun _ at_ => nomatch at_
        drained := fun _ _ => .inr empty
        returned := fun _ at_ => nomatch at_
        failure := fun e carried => inv.failure e (by rw [at_]; exact carried) }
  | cutShort fatal at_ cut =>
      exact { inv with
        quiet := fun looping => nomatch looping
        drainer_on := fun _ at_ => nomatch at_
        awake := fun _ at_ => nomatch at_
        drained := fun _ _ => .inl (inv.cut_immediate cut)
        returned := fun _ at_ => nomatch at_
        failure := fun e carried => inv.failure e (by rw [at_]; exact carried) }
  | escalate now fatal at_ flag =>
      exact inv_of_killing rfl inv.cut_immediate fun e carried => inv.failure e (by rw [at_]; exact carried)
  | finish fatal at_ flag =>
      have empty : r.sup.pool.live = [] := (inv.drained fatal at_).resolve_left (by rw [flag]; decide)
      exact inv_of_returned rfl inv.cut_immediate empty fun e carried => inv.failure e (by rw [at_]; exact carried)
  | killWait now fatal at_ left =>
      exact { inv with
        drained := fun _ at' => nomatch at_.symm.trans at'
        returned := fun _ at' => nomatch at_.symm.trans at' }
  | killEmpty now fatal at_ empty =>
      exact inv_of_returned rfl inv.cut_immediate empty fun e carried => inv.failure e (by rw [at_]; exact carried)

theorem Inv.reaches {r r' : ShutdownRun} (inv : r.Inv) (run : Relation.ReflTransGen Step r r') : r'.Inv := by
  induction run with
  | refl => exact inv
  | tail _ step ih => exact ih.step step

/-! ## What a step does to the stage and to the signals sent -/

/-- What a step does to the run's stage and to the signals sent. -/
inductive Progress (r r' : ShutdownRun) : Prop
  /-- The callers', the workers' and the drain thread's steps, and a reap that leaves live
  workers. -/
  | stay (stage : r'.stage = r.stage) (sent : r'.sent = r.sent)
  /-- A round, the end of a wait, or the end of the loop. -/
  | loop (before : r.stage = .test ∨ r.stage = .waiting) (after : r'.stage.looping = true) (sent : r'.sent = r.sent)
  /-- The run chooses to stop at once. -/
  | terminate (fatal : Option Fault) (at_ : r.stage = .stopping fatal) (chosen : r.atOnce fatal = true)
      (stage : r'.stage = .killing fatal) (sent : r'.sent = r.sent ++ [(.terminate, r.sup.pool.live)])
  /-- The run chooses to stop gracefully. -/
  | interrupt (fatal : Option Fault) (at_ : r.stage = .stopping fatal) (chosen : r.atOnce fatal = false)
      (stage : r'.stage = .draining fatal) (sent : r'.sent = r.sent ++ [(.interrupt, r.sup.pool.live)])
  /-- The drain is over. -/
  | drained (fatal : Option Fault) (at_ : r.stage = .draining fatal) (stage : r'.stage = .drained fatal)
      (sent : r'.sent = r.sent)
  /-- After the drain, an immediate request. -/
  | escalate (fatal : Option Fault) (at_ : r.stage = .drained fatal) (flag : r.sup.immediate = true)
      (stage : r'.stage = .killing fatal) (sent : r'.sent = r.sent ++ [(.terminate, r.sup.pool.live)])
  /-- After the drain, no immediate request: the run returns. -/
  | finish (fatal : Option Fault) (at_ : r.stage = .drained fatal) (flag : r.sup.immediate = false)
      (stage : r'.stage = .returned fatal) (sent : r'.sent = r.sent)
  /-- No live worker is left after the terminates: the run returns. -/
  | returned (fatal : Option Fault) (at_ : r.stage = .killing fatal) (stage : r'.stage = .returned fatal)
      (sent : r'.sent = r.sent)

theorem Step.progress {r r' : ShutdownRun} (step : Step r r') : Progress r r' := by
  cases step with
  | graceful | immediate | poke | cancel | exit | receive | seeImmediate | seeNothing | quit | drainWait
  | killWait => exact .stay rfl rfl
  | stop at_ | fail _ _ _ at_ | round _ _ at_ => exact .loop (.inl at_) rfl rfl
  | wake at_ | timer at_ => exact .loop (.inr at_) rfl rfl
  | terminate now fatal at_ chosen => exact .terminate fatal at_ chosen rfl rfl
  | interrupt now fatal at_ chosen => exact .interrupt fatal at_ chosen rfl rfl
  | drainEmpty now fatal at_ | cutShort fatal at_ => exact .drained fatal at_ rfl rfl
  | escalate now fatal at_ flag => exact .escalate fatal at_ flag rfl rfl
  | finish fatal at_ flag => exact .finish fatal at_ flag rfl rfl
  | killEmpty now fatal at_ => exact .returned fatal at_ rfl rfl

theorem Step.immediate_sticky {r r' : ShutdownRun} (step : Step r r') (flag : r.sup.immediate = true) :
    r'.sup.immediate = true := by
  cases step with
  | fail now e v _ _ filled =>
      have kept := Supervisor.fill_immediate r.sup now
      rw [filled] at kept
      exact kept.trans flag
  | round now v _ _ filled =>
      have kept := Supervisor.fill_immediate r.sup now
      rw [filled] at kept
      show (if r.ready then v else v.notify .ready).immediate = true
      rw [apply_ite Supervisor.immediate]
      simp only [Supervisor.notify, ite_self]
      exact kept.trans flag
  | immediate => rfl
  | graceful | poke | cancel | exit | stop | wake | timer | terminate | interrupt | receive | seeImmediate
  | seeNothing | quit | drainWait | drainEmpty | cutShort | escalate | finish | killWait | killEmpty => exact flag

/-! ## What a run sends after its choice -/

/-- Once the run stops at once, it only waits and returns, and sends nothing more. -/
theorem killing_sends_nothing {r r' : ShutdownRun} (run : Relation.ReflTransGen Step r r') {fatal : Option Fault}
    (at_ : r.stage = .killing fatal ∨ r.stage = .returned fatal) :
    (r'.stage = .killing fatal ∨ r'.stage = .returned fatal) ∧ r'.sent = r.sent := by
  induction run with
  | refl => exact ⟨at_, rfl⟩
  | tail _ step ih =>
      obtain ⟨at', sent⟩ := ih
      cases step.progress with
      | stay stage sent' => exact ⟨stage ▸ at', sent'.trans sent⟩
      | loop before => rcases at' with at' | at' <;> rcases before with b | b <;> exact nomatch at'.symm.trans b
      | terminate _ at'' | interrupt _ at'' | drained _ at'' | escalate _ at'' | finish _ at'' =>
          rcases at' with at' | at' <;> exact nomatch at'.symm.trans at''
      | returned _ at'' stage sent' =>
          rcases at' with at' | at'
          · cases at'.symm.trans at''
            exact ⟨.inr stage, sent'.trans sent⟩
          · exact nomatch at'.symm.trans at''

theorem draining_sends_at_most_terminate {r r' : ShutdownRun} (run : Relation.ReflTransGen Step r r')
    {fatal : Option Fault} {interrupted : List PoolMember} (at_ : r.stage = .draining fatal)
    (sent : r.sent = [(.interrupt, interrupted)]) :
    ((r'.stage = .draining fatal ∨ r'.stage = .drained fatal) ∧ r'.sent = [(.interrupt, interrupted)]) ∨
      ((r'.stage = .killing fatal ∨ r'.stage = .returned fatal) ∧
        (r'.sent = [(.interrupt, interrupted)] ∨ ∃ terminated, r'.sent = [(.interrupt, interrupted), (.terminate, terminated)])) := by
  induction run with
  | refl => exact .inl ⟨.inl at_, sent⟩
  | tail _ step ih =>
      rename_i b c _
      cases step.progress with
      | stay stage sent' =>
          rw [stage, sent']
          exact ih
      | loop before =>
          rcases ih with ⟨at' | at', -⟩ | ⟨at' | at', -⟩ <;> rcases before with b | b <;>
            exact nomatch at'.symm.trans b
      | terminate _ at'' | interrupt _ at'' =>
          rcases ih with ⟨at' | at', -⟩ | ⟨at' | at', -⟩ <;> exact nomatch at'.symm.trans at''
      | drained _ at'' stage sent' =>
          rcases ih with ⟨at' | at', sent⟩ | ⟨at' | at', -⟩
          · cases at'.symm.trans at''
            exact .inl ⟨.inr stage, sent'.trans sent⟩
          all_goals exact nomatch at'.symm.trans at''
      | escalate _ at'' _ stage sent' =>
          rcases ih with ⟨at' | at', sent⟩ | ⟨at' | at', -⟩
          · exact nomatch at'.symm.trans at''
          · cases at'.symm.trans at''
            exact .inr ⟨.inl stage, .inr ⟨_, by rw [sent', sent]; rfl⟩⟩
          all_goals exact nomatch at'.symm.trans at''
      | finish _ at'' _ stage sent' =>
          rcases ih with ⟨at' | at', sent⟩ | ⟨at' | at', -⟩
          · exact nomatch at'.symm.trans at''
          · cases at'.symm.trans at''
            exact .inr ⟨.inr stage, .inl (sent'.trans sent)⟩
          all_goals exact nomatch at'.symm.trans at''
      | returned _ at'' stage sent' =>
          rcases ih with ⟨at' | at', -⟩ | ⟨at' | at', sent⟩
          · exact nomatch at'.symm.trans at''
          · exact nomatch at'.symm.trans at''
          · cases at'.symm.trans at''
            exact .inr ⟨.inr stage, sent' ▸ sent⟩
          · exact nomatch at'.symm.trans at''

/-- An immediate request made before the drain is over is never lost: the run keeps the flag
until the drain is over, and then sends a SIGTERM to every worker live at that point. -/
theorem escalation {r₀ r : ShutdownRun} (run : Relation.ReflTransGen Step r₀ r) {fatal : Option Fault}
    (at_ : r₀.stage = .draining fatal ∨ r₀.stage = .drained fatal) (flag : r₀.sup.immediate = true) :
    ((r.stage = .draining fatal ∨ r.stage = .drained fatal) ∧ r.sent = r₀.sent ∧ r.sup.immediate = true) ∨
      ((r.stage = .killing fatal ∨ r.stage = .returned fatal) ∧
        ∃ r₁, Relation.ReflTransGen Step r₀ r₁ ∧ r₁.stage = .drained fatal ∧
          r.sent = r₀.sent ++ [(.terminate, r₁.sup.pool.live)]) := by
  induction run with
  | refl => exact .inl ⟨at_, rfl, flag⟩
  | tail run₁ step ih =>
      rename_i b c
      cases step.progress with
      | stay stage sent' =>
          rcases ih with ⟨at', sent, flag'⟩ | ⟨at', later⟩
          · exact .inl ⟨stage ▸ at', sent'.trans sent, step.immediate_sticky flag'⟩
          · rw [sent']
            exact .inr ⟨stage ▸ at', later⟩
      | loop before =>
          rcases ih with ⟨at' | at', -⟩ | ⟨at' | at', -⟩ <;> rcases before with b | b <;>
            exact nomatch at'.symm.trans b
      | terminate _ at'' | interrupt _ at'' =>
          rcases ih with ⟨at' | at', -⟩ | ⟨at' | at', -⟩ <;> exact nomatch at'.symm.trans at''
      | drained _ at'' stage sent' =>
          rcases ih with ⟨at' | at', sent, flag'⟩ | ⟨at' | at', -⟩
          · cases at'.symm.trans at''
            exact .inl ⟨.inr stage, sent'.trans sent, step.immediate_sticky flag'⟩
          all_goals exact nomatch at'.symm.trans at''
      | escalate _ at'' _ stage sent' =>
          rcases ih with ⟨at' | at', sent, -⟩ | ⟨at' | at', -⟩
          · exact nomatch at'.symm.trans at''
          · -- the SIGTERMs go out from the state that ends the drain
            cases at'.symm.trans at''
            exact .inr ⟨.inl stage, b, run₁, at', by rw [sent', sent]⟩
          all_goals exact nomatch at'.symm.trans at''
      | finish _ at'' calm =>
          rcases ih with ⟨at' | at', -, flag'⟩ | ⟨at' | at', -⟩
          · exact nomatch at'.symm.trans at''
          · exact Bool.noConfusion (flag'.symm.trans calm)
          all_goals exact nomatch at'.symm.trans at''
      | returned _ at'' stage sent' =>
          rcases ih with ⟨at' | at', -⟩ | ⟨at' | at', later⟩
          · exact nomatch at'.symm.trans at''
          · exact nomatch at'.symm.trans at''
          · cases at'.symm.trans at''
            rw [sent']
            exact .inr ⟨.inr stage, later⟩
          · exact nomatch at'.symm.trans at''

/-- While the drain runs with an immediate request made, something is on its way to cut it
short: the cut itself, the drain's thread about to read the flag, a token in the slot, or a
caller about to put one. -/
theorem Inv.request_on_its_way {r : ShutdownRun} (inv : r.Inv) {fatal : Option Fault}
    (at_ : r.stage = .draining fatal) (flag : r.sup.immediate = true) :
    r.cut = true ∨ r.drainer = .checking ∨ r.token = true ∨ 0 < r.poking := by
  cases drainer : r.drainer with
  | off => exact .inl (inv.drainer_on fatal at_ drainer)
  | checking => exact .inr (.inl rfl)
  | listening =>
      -- a listening thread with nothing on its way would mean no immediate request
      refine .inr (.inr ?_)
      by_contra quiet
      simp only [not_or, Bool.not_eq_true, Nat.not_lt, Nat.le_zero] at quiet
      have calm := inv.awake fatal at_ drainer quiet.1 quiet.2
      exact Bool.noConfusion (flag.symm.trans calm)

/-- How a supervisor's run stops its workers, in every interleaving with the callers, the
context, the workers and the drain's thread. At once, it sends exactly one SIGTERM to each
worker then live and no SIGINT; otherwise exactly one SIGINT to each worker then live, and at
most a SIGTERM more to those live after the drain. An immediate request made before the drain
ends always ends in that SIGTERM: while the drain runs, the cut, the drain's thread about to
read the flag, a token or a caller about to put one is there. The run returns only when no
worker is live, with a round's failure. -/
theorem shutdown_signals (v : Supervisor) :
    (∀ (r r' r'' : ShutdownRun) (fatal : Option Fault), Relation.ReflTransGen Step (start v) r →
      r.stage = .stopping fatal → Step r r' → r'.stage ≠ .stopping fatal → Relation.ReflTransGen Step r' r'' →
      (r.atOnce fatal = true → r''.sent = [(.terminate, r.sup.pool.live)]) ∧
      (r.atOnce fatal = false → r''.sent = [(.interrupt, r.sup.pool.live)] ∨
        ∃ terminated, r''.sent = [(.interrupt, r.sup.pool.live), (.terminate, terminated)])) ∧
    (∀ (r r'' : ShutdownRun) (fatal : Option Fault), (r.stage = .draining fatal ∨ r.stage = .drained fatal) →
      r.sup.immediate = true → Relation.ReflTransGen Step r r'' → r''.stage = .returned fatal →
      ∃ r₁, Relation.ReflTransGen Step r r₁ ∧ r₁.stage = .drained fatal ∧
        r''.sent = r.sent ++ [(.terminate, r₁.sup.pool.live)]) ∧
    (∀ (r : ShutdownRun) (fatal : Option Fault), Relation.ReflTransGen Step (start v) r →
      r.stage = .draining fatal → r.sup.immediate = true →
      r.cut = true ∨ r.drainer = .checking ∨ r.token = true ∨ 0 < r.poking) ∧
    (∀ (r : ShutdownRun) (fatal : Option Fault), Relation.ReflTransGen Step (start v) r →
      r.stage = .returned fatal → r.sup.pool.live = [] ∧ ∀ e, fatal = some e → Supervisor.RoundFailure e) := by
  have reach : ∀ r, Relation.ReflTransGen Step (start v) r → r.Inv := fun r run => (inv_start v).reaches run
  refine ⟨fun r r' r'' fatal run at_ step leaves later => ?_, fun r r'' fatal at_ flag later returned => ?_,
    fun r fatal run at_ flag => (reach r run).request_on_its_way at_ flag, fun r fatal run at_ => ?_⟩
  · -- nothing was sent before the choice, and the choice is the step that leaves its stage
    have nothing := ((reach r run).quiet (by rw [at_]; rfl)).1
    cases step.progress with
    | stay stage => exact absurd (stage.trans at_) leaves
    | loop before => rcases before with b | b <;> exact nomatch at_.symm.trans b
    | terminate _ at' chosen stage sent =>
        cases at_.symm.trans at'
        have after := killing_sends_nothing later (.inl stage)
        refine ⟨fun _ => by rw [after.2, sent, nothing]; rfl, fun calm => ?_⟩
        exact Bool.noConfusion (chosen.symm.trans calm)
    | interrupt _ at' chosen stage sent =>
        cases at_.symm.trans at'
        refine ⟨fun hurry => Bool.noConfusion (chosen.symm.trans hurry), fun _ => ?_⟩
        rcases draining_sends_at_most_terminate later stage (by rw [sent, nothing]; rfl) with ⟨-, sent''⟩ | ⟨-, sent''⟩
        · exact .inl sent''
        · exact sent''
    | drained _ at' | escalate _ at' | finish _ at' | returned _ at' => exact nomatch at_.symm.trans at'
  · rcases escalation later at_ flag with ⟨at' | at', -⟩ | ⟨-, later'⟩
    · exact nomatch returned.symm.trans at'
    · exact nomatch returned.symm.trans at'
    · exact later'
  · have inv := reach r run
    exact ⟨inv.returned fatal at_, fun e failed => inv.failure e (by rw [at_]; exact failed)⟩

/-- A supervisor asked to stop gracefully, with one live worker, and then at once while the drain
runs: the worker gets its SIGINT, then the SIGTERM of the escalation, and the run returns with
no worker live. -/
theorem graceful_stop_escalates :
    ∃ r'', Relation.ReflTransGen Step
        (start ⟨⟨⟨8, [], [], {}, 0⟩, 1, 100, [⟨{ pid := 7 }, .zero, ⟨100⟩, false⟩]⟩, default, [], 0, [], true, false⟩) r'' ∧
      r''.stage = .returned none ∧
      (r''.sent = [(.interrupt, [⟨{ pid := 7 }, .zero, ⟨100⟩, false⟩])] ∨
        ∃ terminated, r''.sent = [(.interrupt, [⟨{ pid := 7 }, .zero, ⟨100⟩, false⟩]), (.terminate, terminated)]) ∧
      r''.sup.pool.live = [] := by
  have stopped := Relation.ReflTransGen.single (Step.stop (start ⟨⟨⟨8, [], [], {}, 0⟩, 1, 100,
    [⟨{ pid := 7 }, .zero, ⟨100⟩, false⟩]⟩, default, [], 0, [], true, false⟩) rfl rfl)
  have interrupted := Step.interrupt { start ⟨⟨⟨8, [], [], {}, 0⟩, 1, 100, [⟨{ pid := 7 }, .zero, ⟨100⟩, false⟩]⟩,
    default, [], 0, [], true, false⟩ with stage := .stopping none } .zero none rfl rfl
  have after : ∀ r'', Relation.ReflTransGen Step _ r'' → Relation.ReflTransGen Step _ r'' ∧ _ :=
    fun r'' later => ⟨(stopped.tail interrupted).trans later,
      (shutdown_signals _).1 _ _ r'' none stopped rfl interrupted (fun same => by cases same) later⟩
  obtain ⟨run, sent⟩ := after _ (.head (.immediate _) (.head (.poke _ (by decide)) (.head (.receive _ rfl rfl)
    (.head (.seeImmediate _ rfl rfl) (.head (.cutShort _ none rfl rfl) (.head (.escalate _ .zero none rfl rfl)
      (.single (.killEmpty _ .zero none rfl rfl))))))))
  exact ⟨_, run, rfl, sent.2 rfl, ((shutdown_signals _).2.2.2 _ none run rfl).1⟩

end ShutdownRun

end Foreman

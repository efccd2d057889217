import Foreman.Proofs.Cleanup.Runs
import Foreman.Proofs.Worker.Termination

/-!
# What a sweep reports

A sweep calls each job type's clean-up in catalog order (name order for a configured
catalog), goes on past failures and panics, and stops right after an error of the
job-terminate cause or, its context cancelled, before the next type. It reports the failures
under their types' names, in call order, then what it stopped for. `Accounts` says this of a
duty's sweep; every operation keeps it (`Op.accounts`), so it holds along every run
(`sweep_reports`).
-/

namespace Foreman

set_option autoImplicit false

namespace CleanupJob

/-- Whether a clean-up's outcome stops the sweep: an error of the job-terminate cause. -/
def stops : Outcome (Option Fault) → Bool
  | .returned (some e) => e.is .jobTerminate
  | _ => false

/-- What a sweep reports of a clean-up of the type `name` that does not stop it: nothing for
success, else its error or panic under the type's name. -/
def reported (name : String) : Outcome (Option Fault) → List Fault
  | .returned none => []
  | .returned (some e) => [e.wrap name]
  | .panicked m => [(Fault.plain ("clean up panicked: " ++ m)).wrap name]

/-- A clean-up call: the job type and how its clean-up ended. -/
abbrev Call := Definition JobType × Outcome (Option Fault)

def reports (done : List Call) : List Fault := done.flatMap fun c => reported c.1.config.name c.2

/-- How a clean-up of the job type `d` can end: as one of its calls returns at once, as the
behaviour a call waits on returns, or with any outcome when the call waits to be released. -/
def Ends (d : Definition JobType) (o : Outcome (Option Fault)) : Prop :=
  ∃ n, (∃ ctx h now b b', (d.type.cleanUp n ctx h now d.config).run b = (some o, b')) ∨
    (∃ ctx, (d.type.cleanUpWaitsOn n).result ctx "" = some o) ∨ (d.type.cleanUpWaitsOn n).waitsForRelease = true

/-- The types of the catalog `defs` before `rest` were called in turn, as `done`, each ending
as its clean-ups can and none stopping the sweep. -/
def Called (defs : List (Definition JobType)) (done : List Call) (rest : List (Definition JobType)) : Prop :=
  defs = done.map (·.1) ++ rest ∧ ∀ c ∈ done, Ends c.1 c.2 ∧ stops c.2 = false

/-- Why a sweep with `rest` left stopped, and what it adds to its report: nothing when the
catalog ran out; the job-terminate error the first of `rest` ended with; or the cause `ctx`
was cancelled with before that type. -/
def Stopped (ctx : Ctx) (rest : List (Definition JobType)) (cut : List Fault) : Prop :=
  rest = [] ∧ cut = [] ∨
    (∃ d e, rest.head? = some d ∧ Ends d (.returned (some e)) ∧ e.is .jobTerminate ∧ cut = [e]) ∨
    rest ≠ [] ∧ ∃ c, ctx.interrupted = some c ∧ cut = [c]

/-- A running sweep of `defs` with `rest` left holds the reports `errors` of the types before. -/
def Tally (defs : List (Definition JobType)) (errors : List Fault) (rest : List (Definition JobType)) : Prop :=
  ∃ done, Called defs done rest ∧ errors = reports done

/-- A sweep of the catalog `defs` under the context `ctx` ended with the report `r`. -/
def Ended (defs : List (Definition JobType)) (ctx : Ctx) (r : Option Fault) : Prop :=
  ∃ done rest cut, Called defs done rest ∧ Stopped ctx rest cut ∧ r = Fault.gather (reports done ++ cut)

/-- A running sweep has tallied the types before its clean-up in progress and waits on that
clean-up's behaviour; an ended one reports how it ended. -/
structure Accounts (j : CleanupJob) : Prop where
  running : ∀ s, j.sweep = some s → s.result = none → Tally j.catalog.defs s.errors s.rest ∧
    ∀ w, s.waiting = some w → ∃ d rest n, s.rest = d :: rest ∧ w = d.type.cleanUpWaitsOn n
  ended : ∀ s r, j.sweep = some s → s.result = some r → Ended j.catalog.defs s.ctx r

theorem absorb_cases (s : Sweep) (name : String) (o : Outcome (Option Fault)) :
    stops o = false ∧ absorb s name o = ({ s with errors := s.errors ++ reported name o }, false) ∨
      ∃ e, o = .returned (some e) ∧ e.is .jobTerminate ∧ absorb s name o = ({ s with errors := s.errors ++ [e] }, true) := by
  unfold absorb
  split
  · exact .inl ⟨rfl, by simp [reported]⟩
  · rename_i e
    split
    · rename_i terminates
      exact .inr ⟨e, rfl, terminates, rfl⟩
    · rename_i goesOn
      exact .inl ⟨by simpa [stops] using goesOn, rfl⟩
  · exact .inl ⟨rfl, rfl⟩

variable {defs rest : List (Definition JobType)} {ctx : Ctx} {errors cut : List Fault}

theorem gather_eq_none {fs : List Fault} : Fault.gather fs = none ↔ fs = [] := by
  unfold Fault.gather
  split <;> simp_all

theorem reported_eq_nil {name : String} {o : Outcome (Option Fault)} : reported name o = [] ↔ o = .returned none := by
  unfold reported
  split <;> simp

/-- The report is nothing exactly when every type called succeeded and none was left. -/
theorem Stopped.report_eq_none (stopped : Stopped ctx rest cut) (done : List Call) :
    Fault.gather (reports done ++ cut) = none ↔ (∀ c ∈ done, c.2 = .returned none) ∧ rest = [] := by
  have cut_nil : cut = [] ↔ rest = [] := by
    rcases stopped with ⟨left, rfl⟩ | ⟨d, e, first, -, -, rfl⟩ | ⟨left, c, -, rfl⟩
    · simp [left]
    · simp only [List.cons_ne_nil, false_iff]
      rintro rfl
      cases first
    · simp [left]
  simp [gather_eq_none, reports, reported_eq_nil, cut_nil]

theorem Tally.take {d : Definition JobType} {o : Outcome (Option Fault)} (tally : Tally defs errors (d :: rest))
    (ends : Ends d o) (goesOn : stops o = false) : Tally defs (errors ++ reported d.config.name o) rest := by
  obtain ⟨done, ⟨split, fine⟩, rfl⟩ := tally
  refine ⟨done ++ [(d, o)], ⟨by simp [split], fun c mem => ?_⟩, by simp [reports]⟩
  rcases List.mem_append.1 mem with old | new
  · exact fine c old
  · obtain rfl := List.mem_singleton.1 new
    exact ⟨ends, goesOn⟩

theorem Tally.ended (tally : Tally defs errors rest) (stopped : Stopped ctx rest cut) :
    Ended defs ctx (Fault.gather (errors ++ cut)) := by
  obtain ⟨done, called, rfl⟩ := tally
  exact ⟨done, rest, cut, called, stopped, rfl⟩

theorem Tally.ended_whole (tally : Tally defs errors []) : Ended defs ctx (Fault.gather errors) := by
  have ended : Ended defs ctx (Fault.gather (errors ++ [])) := tally.ended (.inl ⟨rfl, rfl⟩)
  simpa using ended

theorem accounts_of_idle {j : CleanupJob} (idle : j.sweep = none) : Accounts j where
  running s sweep := by rw [idle] at sweep; cases sweep
  ended s r sweep := by rw [idle] at sweep; cases sweep

variable (now : Instant)

theorem finish_accounts (j : CleanupJob) (s : Sweep) (b : Backend)
    (ended : Ended j.catalog.defs s.ctx (Fault.gather s.errors)) : Accounts ((j.finish s now).run b).1 where
  running _ sweep running := by cases sweep; cases running
  ended _ _ sweep result := by cases sweep; cases result; exact ended

theorem advance_accounts (ds : List (Definition JobType)) :
    ∀ (j : CleanupJob) (s : Sweep) (b : Backend), s.result = none → Tally j.catalog.defs s.errors ds →
      Accounts ((j.advance s now ds).run b).1 := by
  induction ds with
  | nil => intro j s b _ tally; exact finish_accounts now j s b tally.ended_whole
  | cons d rest ih =>
      intro j s b running tally
      simp only [CleanupJob.advance]
      split
      · -- the context was cancelled before `d`: the sweep stops with its cause
        rename_i c cancelled
        exact finish_accounts now j _ b (tally.ended (.inr (.inr ⟨by simp, c, cancelled, rfl⟩)))
      · simp only [BackendM.run_bind, Backend.handle_run]
        generalize ((Backend.handle s.db).run b).1 = h
        generalize called : (d.type.cleanUp (j.callsOf d.config.name) s.ctx h now d.config).run b = call
        obtain ⟨outcome, b₁⟩ := call
        cases outcome with
        | none =>
            refine ⟨fun s' sweep _ => ?_, fun s' r sweep result => ?_⟩ <;> cases sweep
            · exact ⟨tally, fun w waiting => ⟨d, rest, _, rfl, (Option.some.inj waiting).symm⟩⟩
            · rw [running] at result; cases result
        | some o =>
            have ends : Ends d o := ⟨_, .inl ⟨_, _, _, _, _, called⟩⟩
            rcases absorb_cases s d.config.name o with ⟨goesOn, absorbed⟩ | ⟨e, rfl, terminates, absorbed⟩
            · simp only [absorbed]
              exact ih _ _ b₁ running (tally.take ends goesOn)
            · simp only [absorbed]
              exact finish_accounts now _ _ b₁ (tally.ended (.inr (.inl ⟨d, e, rfl, ends, terminates, rfl⟩)))

theorem resume_accounts (j : CleanupJob) (s : Sweep) (o : Outcome (Option Fault)) (b : Backend)
    (running : s.result = none) (tally : Tally j.catalog.defs s.errors s.rest)
    (ends : ∀ d rest, s.rest = d :: rest → Ends d o) : Accounts ((j.resume s o now).run b).1 := by
  unfold resume
  split
  · rename_i left
    rw [left] at tally
    exact finish_accounts now j s b tally.ended_whole
  · rename_i d rest left
    rw [left] at tally
    rcases absorb_cases { s with waiting := none } d.config.name o with
      ⟨goesOn, absorbed⟩ | ⟨e, rfl, terminates, absorbed⟩
    · simp only [absorbed]
      exact advance_accounts now rest j _ b running (tally.take (ends d rest left) goesOn)
    · simp only [absorbed]
      exact finish_accounts now j _ b (tally.ended (.inr (.inl ⟨d, e, rfl, ends d rest left, terminates, rfl⟩)))

theorem Accounts.resumes {j : CleanupJob} {s : Sweep} {w : Behaviour} {o : Outcome (Option Fault)}
    (acc : Accounts j) (sweep : j.sweep = some s) (running : s.result = none) (waiting : s.waiting = some w)
    (returns : (∃ ctx, w.result ctx "" = some o) ∨ w.waitsForRelease = true) (b : Backend) :
    Accounts ((j.resume s o now).run b).1 := by
  obtain ⟨tally, waits⟩ := acc.running s sweep running
  obtain ⟨d, rest, n, left, rfl⟩ := waits w waiting
  refine resume_accounts now j s o b running tally fun d' rest' left' => ?_
  obtain ⟨rfl, rfl⟩ := List.cons.inj (left.symm.trans left')
  exact ⟨n, .inr returns⟩

theorem settle_accounts (j : CleanupJob) (b : Backend) (acc : Accounts j) : Accounts ((j.settle now).run b).1 := by
  unfold settle
  split
  · rename_i s sweep
    split
    · rename_i w running waiting
      split
      · rename_i o returned
        exact acc.resumes now sweep running waiting (.inl ⟨_, returned⟩) b
      · exact acc
    · exact acc
  · exact acc

theorem release_accounts (j : CleanupJob) (name : Option String) (o : Outcome (Option Fault)) (b : Backend)
    (acc : Accounts j) : Accounts ((j.release name o now).run b).1 := by
  unfold release
  split
  · rename_i s sweep
    split
    · rename_i w d rest running waiting left
      split
      · rename_i released
        exact acc.resumes now sweep running waiting (.inr (Bool.and_eq_true_iff.1 released).1) b
      · exact acc
    · exact acc
  · exact acc

theorem tick_accounts (j : CleanupJob) (db : Option Nat) (b : Backend) (acc : Accounts j) :
    Accounts ((j.tick db now).run b).1 := by
  unfold tick
  split
  · split
    · -- a running sweep runs on; only the due time moves
      exact ⟨acc.running, acc.ended⟩
    · exact accounts_of_idle rfl
  · split
    · exact acc
    · -- a sweep starts over the whole catalog
      simp only [BackendM.run_bind]
      exact advance_accounts now _ _ _ _ rfl ⟨[], ⟨by simp, by simp⟩, rfl⟩

theorem terminate_accounts (j : CleanupJob) (release : Option (Outcome (Option Fault))) (b : Backend)
    (acc : Accounts j) : Accounts ((j.terminate now release).run b).1.2 := by
  unfold terminate
  split
  · exact acc
  · rename_i s sweep
    split
    · exact acc
    · rename_i running
      have result : s.result = none := by simpa using running
      have cancelled : Accounts { j with sweep := some { s with ctx := s.ctx.cancel Fault.jobTerminate } } :=
        ⟨fun s' same => by cases same; exact acc.running s sweep,
          fun s' r same ended => by cases same; rw [result] at ended; cases ended⟩
      simp only [BackendM.run_bind]
      have settled := settle_accounts now _ b cancelled
      generalize (CleanupJob.settle _ now).run b = r at settled ⊢
      obtain ⟨j₁, b₁⟩ := r
      dsimp only
      split
      · exact settled
      · split
        · exact settled
        · rename_i o
          simp only [BackendM.run_bind]
          have twice := settle_accounts now _ ((j₁.release none o now).run b₁).2
            (release_accounts now j₁ none o b₁ settled)
          split <;> exact twice

theorem tick_before_due (j : CleanupJob) (db : Option Nat) (b : Backend) (off : j.running = false)
    (early : now < j.info.time) : ((j.tick db now).run b).1.running = false := by
  unfold tick
  split
  · rename_i s sweep
    have ended : s.result.isNone = false := by simpa [running, sweep] using off
    simp [ended, running]
  · have late : j.info.time.nanos > now.nanos := early
    simp [late, off]

/-- What can happen to a duty: a tick, the return or the release of the clean-up its sweep
waits on, and terminating its sweep. -/
inductive Op : CleanupJob → CleanupJob → Prop
  | tick (j : CleanupJob) (db : Option Nat) (now : Instant) (b : Backend) : Op j ((j.tick db now).run b).1
  | settle (j : CleanupJob) (now : Instant) (b : Backend) : Op j ((j.settle now).run b).1
  | release (j : CleanupJob) (name : Option String) (o : Outcome (Option Fault)) (now : Instant) (b : Backend) :
      Op j ((j.release name o now).run b).1
  | terminate (j : CleanupJob) (now : Instant) (release : Option (Outcome (Option Fault))) (b : Backend) :
      Op j ((j.terminate now release).run b).1.2

theorem Op.accounts {j j' : CleanupJob} (op : Op j j') (acc : Accounts j) : Accounts j' := by
  cases op with
  | tick db now b => exact tick_accounts now j db b acc
  | settle now b => exact settle_accounts now j b acc
  | release name o now b => exact release_accounts now j name o b acc
  | terminate now release b => exact terminate_accounts now j release b acc

/-- Along every run of a duty from no sweep, an ended sweep called the catalog's types in
order, each ending as its clean-up can, past failures and panics, and stopped after the
catalog, after a job-terminate error or, cancelled, before the next type; it reports the
failures by type name, then that error or cause, and nothing exactly when every call
succeeded and no type was left. Terminating reports no failure only once no sweep runs, and
a tick before the due time starts none. -/
theorem sweep_reports {j₀ j : CleanupJob} (fresh : j₀.sweep = none) (run : Relation.ReflTransGen Op j₀ j) :
    (∀ s r, j.sweep = some s → s.result = some r →
      ∃ done rest cut, Called j.catalog.defs done rest ∧ Stopped s.ctx rest cut ∧
        r = Fault.gather (reports done ++ cut) ∧ (r = none ↔ (∀ c ∈ done, c.2 = .returned none) ∧ rest = [])) ∧
    (∀ now release b, ((j.terminate now release).run b).1.1 = none → ((j.terminate now release).run b).1.2.running = false) ∧
    ∀ db now b, j.running = false → now < j.info.time → ((j.tick db now).run b).1.running = false := by
  have acc : Accounts j := by
    induction run with
    | refl => exact accounts_of_idle fresh
    | tail _ op ih => exact op.accounts ih
  refine ⟨fun s r sweep result => ?_, fun now release b quiet => terminate_stopped quiet,
    fun db now b off early => tick_before_due now j db b off early⟩
  obtain ⟨done, rest, cut, called, stopped, report⟩ := acc.ended s r sweep result
  exact ⟨done, rest, cut, called, stopped, report, report ▸ stopped.report_eq_none done⟩

/-- The sweep of a failing type, a type that waits until its context is cancelled and a third
type, terminated while it waits on the second. -/
theorem sweep_reports_after_termination :
    let j₀ : CleanupJob :=
      { catalog := ⟨[⟨⟨"a", "a", 1, 1, none⟩, .scripted { cleanUps := [.fail "stale rows"] }⟩,
          ⟨⟨"b", "b", 1, 1, none⟩, .scripted { cleanUps := [.untilDone] }⟩, ⟨⟨"c", "c", 1, 1, none⟩, .scripted {}⟩],
          [("a", 0), ("b", 1), ("c", 2)]⟩,
        schedule := .every 3600000000000, pid := 1, info := { pid := 1 } }
    let j := ((((j₀.tick none .zero).run {}).1.terminate .zero none).run {}).1.2
    ∀ s r, j.sweep = some s → s.result = some r →
      ∃ done rest cut, Called j.catalog.defs done rest ∧ Stopped s.ctx rest cut ∧
        r = Fault.gather (reports done ++ cut) ∧ (r = none ↔ (∀ c ∈ done, c.2 = .returned none) ∧ rest = []) :=
  (sweep_reports rfl (.tail (.single (.tick _ none .zero {})) (.terminate _ .zero none {}))).1

end CleanupJob

end Foreman

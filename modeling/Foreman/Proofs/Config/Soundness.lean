import Mathlib
import Foreman.Config.Settings
import Foreman.Proofs.Json.Reading

/-!
# What resolving a configuration guarantees

Of the settings `Config.resolve` accepts (`resolve_sound`, fields of `Settings.Sound`): the
pool and jobs per process are at least one, every interval and the cancel timeout positive,
the job types the document's under trimmed names with positive timeouts and limits, in name
order, and the acceptable period the larger of its minimum and half again the longest timeout,
in a 64-bit word. Where the products do not fit they wrap, and names differing only in blanks
become one (`long_durations_wrap`).
-/

namespace Foreman

open Json (bind_eq_ok_iff)

/-! ## Durations -/

namespace DurationText

variable {path raw : String} {d : Int}

theorem orDefault_pos {default : Int} (pos : 0 < default) (ok : orDefault path raw default = .ok d) :
    0 < d := by
  obtain ⟨read, -, picked⟩ := bind_eq_ok_iff.mp ok
  cases picked
  split <;> omega

end DurationText

/-! ## Job types -/

theorem mapM_forall₂ {ε α β : Type} {f : α → Except ε β} :
    ∀ {l : List α} {r : List β}, l.mapM f = .ok r → List.Forall₂ (fun a b => f a = .ok b) l r
  | [], r, ok => by
      simp only [List.mapM_nil, pure, Except.pure, Except.ok.injEq] at ok
      subst ok
      exact .nil
  | a :: l, r, ok => by
      rw [List.mapM_cons] at ok
      obtain ⟨b, first, ok⟩ := bind_eq_ok_iff.mp ok
      obtain ⟨bs, rest, ok⟩ := bind_eq_ok_iff.mp ok
      cases ok
      exact .cons first (mapM_forall₂ rest)

namespace Settings

variable {name : String} {j : JobSection} {js : JobSettings}

theorem checkJob_ok (ok : checkJob name j = .ok js) :
    js.name = Text.trimSpace name ∧ 0 < js.timeout ∧ 0 < js.maxJobPerProcess := by
  unfold checkJob at ok
  dsimp only at ok
  by_cases empty : (Text.trimSpace name == "") = true
  · simp only [empty, if_true] at ok
    cases ok
  simp only [empty, Bool.false_eq_true, if_false] at ok
  obtain ⟨timeout, -, ok⟩ := bind_eq_ok_iff.mp ok
  by_cases short : timeout ≤ 0
  · simp only [short, if_true] at ok
    cases ok
  by_cases none : j.maxJobPerProcess ≤ 0
  · simp only [short, none, if_true, if_false] at ok
    cases ok
  simp only [short, none, if_false] at ok
  cases ok
  exact ⟨rfl, show 0 < timeout by omega, show 0 < j.maxJobPerProcess by omega⟩

theorem checked_jobs {table : JobTable} {checked : List JobSettings}
    (all : List.Forall₂ (fun entry js => checkJob entry.1 entry.2 = .ok js) table checked) :
    checked.map (·.name) = table.map (fun entry => Text.trimSpace entry.1) ∧
      ∀ js ∈ checked, 0 < js.timeout ∧ 0 < js.maxJobPerProcess := by
  induction all with
  | nil => exact ⟨rfl, fun _ mem => absurd mem List.not_mem_nil⟩
  | cons first _ ih =>
      obtain ⟨named, timeout, perProcess⟩ := checkJob_ok first
      refine ⟨by rw [List.map_cons, List.map_cons, named, ih.1], fun js mem => ?_⟩
      rcases List.mem_cons.mp mem with rfl | later
      · exact ⟨timeout, perProcess⟩
      · exact ih.2 js later

/-! ### Sorting by name -/

def NameSorted (jobs : List JobSettings) : Prop := jobs.Pairwise fun a b => ¬ b.name < a.name

theorem insert_perm (js : JobSettings) : ∀ jobs : List JobSettings, (sortJobs.insert js jobs).Perm (js :: jobs)
  | [] => .refl _
  | k :: rest => by
      unfold sortJobs.insert
      split
      · exact .refl _
      · exact ((insert_perm js rest).cons k).trans (.swap js k rest)

theorem insert_sorted (js : JobSettings) :
    ∀ jobs : List JobSettings, NameSorted jobs → NameSorted (sortJobs.insert js jobs)
  | [], _ => List.pairwise_singleton _ _
  | k :: rest, sorted => by
      unfold sortJobs.insert
      split
      · rename_i before
        refine List.Pairwise.cons (fun x mem => ?_) sorted
        rcases List.mem_cons.mp mem with rfl | later
        · exact String.lt_asymm before
        · exact fun below => List.rel_of_pairwise_cons sorted later (String.lt_trans below before)
      · rename_i after
        refine List.Pairwise.cons (fun x mem => ?_) (insert_sorted js rest (List.Pairwise.of_cons sorted))
        rcases List.mem_cons.mp ((insert_perm js rest).subset mem) with rfl | later
        · exact after
        · exact List.rel_of_pairwise_cons sorted later

theorem sortJobs_cons (js : JobSettings) (jobs : List JobSettings) :
    sortJobs (js :: jobs) = sortJobs.insert js (sortJobs jobs) := rfl

theorem sortJobs_perm : ∀ jobs : List JobSettings, (sortJobs jobs).Perm jobs
  | [] => .refl _
  | js :: jobs => by
      rw [sortJobs_cons]
      exact (insert_perm js _).trans ((sortJobs_perm jobs).cons js)

theorem sortJobs_sorted : ∀ jobs : List JobSettings, NameSorted (sortJobs jobs)
  | [] => List.Pairwise.nil
  | js :: jobs => by
      rw [sortJobs_cons]
      exact insert_sorted js _ (sortJobs_sorted jobs)

/-! ### The longest timeout -/

theorem foldl_max_timeout (jobs : List JobSettings) : ∀ start : Int,
    start ≤ jobs.foldl (fun m j => max m j.timeout) start ∧
      ∀ j ∈ jobs, j.timeout ≤ jobs.foldl (fun m j => max m j.timeout) start := by
  induction jobs with
  | nil => exact fun start => ⟨le_refl start, fun _ mem => absurd mem List.not_mem_nil⟩
  | cons k rest ih =>
      intro start
      obtain ⟨atLeast, each⟩ := ih (max start k.timeout)
      refine ⟨le_trans (le_max_left _ _) atLeast, fun j mem => ?_⟩
      rcases List.mem_cons.mp mem with rfl | later
      · exact le_trans (le_max_right _ _) atLeast
      · exact each j later

theorem maxJobTimeout_nonneg (s : Settings) : 0 ≤ s.maxJobTimeout := (foldl_max_timeout s.jobs 0).1

theorem timeout_le_maxJobTimeout {s : Settings} {j : JobSettings} (mem : j ∈ s.jobs) :
    j.timeout ≤ s.maxJobTimeout :=
  (foldl_max_timeout s.jobs 0).2 j mem

end Settings

/-! ## One resolution -/

namespace Config

/-- What `Config.resolve` computed for an accepted document, field by field: counts with
defaults, each duration as its field reads, the acceptable period from its minimum and the
longest timeout, and the job types checked and sorted. -/
structure Resolved (cfg : Config) (s : Settings) : Prop where
  poolSize : s.poolSize = if cfg.manager.poolSize ≤ 0 then 2 else cfg.manager.poolSize
  maxJobPerProcess :
    s.maxJobPerProcess = if cfg.manager.maxJobPerProcess ≤ 0 then 10 else cfg.manager.maxJobPerProcess
  queueLoadRows : s.queueLoadRows = if cfg.manager.queueLoadRows ≤ 0 then
    Word.wrap (s.maxJobPerProcess * Word.wrap (s.poolSize * 2 + 1)) else cfg.manager.queueLoadRows
  watch : Settings.managerDuration "watch_interval" cfg.manager.watchInterval Settings.second =
    .ok s.watchInterval
  reconnect : Settings.managerDuration "db_reconnect_interval" cfg.manager.dbReconnectInterval
    (30 * Settings.second) = .ok s.dbReconnectInterval
  restart : Settings.managerDuration "exception_restart_interval" cfg.manager.exceptionRestartInterval
    (5 * Settings.second) = .ok s.exceptionRestartInterval
  queueWatch : Settings.managerDuration "queue_watch_interval" cfg.manager.queueWatchInterval
    (3 * Settings.second) = .ok s.queueWatchInterval
  maintenance : Settings.managerDuration "maintenance_check_interval" cfg.manager.maintenanceCheckInterval
    (10 * Settings.second) = .ok s.maintenanceCheckInterval
  cancel : Settings.managerDuration "job_cancel_timeout" cfg.manager.jobCancelTimeout
    (3 * Settings.second) = .ok s.jobCancelTimeout
  acceptable : ∃ least, Settings.managerDuration "acceptable_min" cfg.manager.acceptableMin
    (7200 * Settings.second) = .ok least ∧
      s.acceptable = max (Word.quot (Word.wrap (s.maxJobTimeout * 3)) 2) least
  jobs : ∃ checked, (cfg.jobs.getD []).mapM (fun entry => Settings.checkJob entry.1 entry.2) = .ok checked ∧
    s.jobs = Settings.sortJobs checked

/-- The settings of an accepted document, taken apart step by step. -/
theorem resolved_of_ok {cfg : Config} {s : Settings} (ok : Config.resolve (some cfg) = .ok s) :
    Resolved cfg s := by
  unfold Config.resolve at ok
  dsimp only at ok
  by_cases level : (!Level.valid cfg.logging.level) = true
  · simp only [level, if_true] at ok
    cases ok
  simp only [level, Bool.false_eq_true, if_false] at ok
  obtain ⟨db, -, ok⟩ := bind_eq_ok_iff.mp ok
  obtain ⟨watch, watched, ok⟩ := bind_eq_ok_iff.mp ok
  obtain ⟨reconnect, reconnected, ok⟩ := bind_eq_ok_iff.mp ok
  obtain ⟨restart, restarted, ok⟩ := bind_eq_ok_iff.mp ok
  obtain ⟨queueWatch, queueWatched, ok⟩ := bind_eq_ok_iff.mp ok
  obtain ⟨maintenance, maintained, ok⟩ := bind_eq_ok_iff.mp ok
  obtain ⟨cancel, cancelled, ok⟩ := bind_eq_ok_iff.mp ok
  obtain ⟨least, leastRead, ok⟩ := bind_eq_ok_iff.mp ok
  obtain ⟨schedule, -, ok⟩ := bind_eq_ok_iff.mp ok
  by_cases empty : (cfg.jobs.getD []).isEmpty = true
  · simp only [empty, if_true] at ok
    cases ok
  simp only [empty, Bool.false_eq_true, if_false] at ok
  obtain ⟨checked, jobsChecked, ok⟩ := bind_eq_ok_iff.mp ok
  cases ok
  exact ⟨rfl, rfl, rfl, watched, reconnected, restarted, queueWatched, maintained, cancelled,
    ⟨least, leastRead, rfl⟩, ⟨checked, jobsChecked, rfl⟩⟩

end Config

/-! ## Soundness of the settings -/

theorem Word.wrap_of_fits {x : Int} (nonneg : 0 ≤ x) (fits : x < 2 ^ 63) : Word.wrap x = x :=
  Word.wrap_of_small x (by omega) (by norm_num at fits; omega)

namespace Settings

/-- What the settings of an accepted document promise, with the document they came from.
The three facts about derived values hold where the 64-bit products they come from fit. -/
structure Sound (cfg : Config) (s : Settings) : Prop where
  poolSize_pos : 0 < s.poolSize
  maxJobPerProcess_pos : 0 < s.maxJobPerProcess
  queueLoadRows_set : 0 < cfg.manager.queueLoadRows → s.queueLoadRows = cfg.manager.queueLoadRows
  queueLoadRows_product : cfg.manager.queueLoadRows ≤ 0 →
    s.maxJobPerProcess * (2 * s.poolSize + 1) < 2 ^ 63 →
      s.queueLoadRows = s.maxJobPerProcess * (2 * s.poolSize + 1)
  intervals_pos : 0 < s.watchInterval ∧ 0 < s.dbReconnectInterval ∧ 0 < s.exceptionRestartInterval ∧
    0 < s.queueWatchInterval ∧ 0 < s.maintenanceCheckInterval ∧ 0 < s.jobCancelTimeout
  /-- The job types are the document's, under their trimmed names, in the order of names. -/
  jobs_named : (s.jobs.map (·.name)).Perm ((cfg.jobs.getD []).map fun entry => Text.trimSpace entry.1)
  jobs_sorted : NameSorted s.jobs
  jobs_pos : ∀ j ∈ s.jobs, 0 < j.timeout ∧ 0 < j.maxJobPerProcess
  /-- The acceptable period: the larger of its minimum and half as long again as the longest
  timeout, computed in a 64-bit word. -/
  acceptable_eq : ∃ least, managerDuration "acceptable_min" cfg.manager.acceptableMin
    (7200 * second) = .ok least ∧ 0 < least ∧
      s.acceptable = max (Word.quot (Word.wrap (s.maxJobTimeout * 3)) 2) least
  acceptable_covers : 3 * s.maxJobTimeout < 2 ^ 63 →
    s.maxJobTimeout * 3 / 2 ≤ s.acceptable ∧ ∀ j ∈ s.jobs, j.timeout ≤ s.acceptable
  shutdown_covers : 3 * s.jobCancelTimeout + 2 * s.watchInterval < 2 ^ 63 →
    s.shutdownWait = 3 * s.jobCancelTimeout + 2 * s.watchInterval ∧ s.jobCancelTimeout < s.shutdownWait

variable {cfg : Config} {s : Settings}

/-- Half as long again as the longest timeout, when three times it fits a word, is the
quotient the period is computed from, and covers every timeout. -/
theorem acceptable_share (fits : 3 * s.maxJobTimeout < 2 ^ 63) :
    Word.quot (Word.wrap (s.maxJobTimeout * 3)) 2 = s.maxJobTimeout * 3 / 2 ∧
      ∀ j ∈ s.jobs, j.timeout ≤ s.maxJobTimeout * 3 / 2 := by
  have nonneg := maxJobTimeout_nonneg s
  have unwrapped : Word.wrap (s.maxJobTimeout * 3) = s.maxJobTimeout * 3 :=
    Word.wrap_of_fits (by omega) (by omega)
  refine ⟨?_, fun j mem => ?_⟩
  · rw [Word.quot, unwrapped, Int.tdiv_eq_ediv_of_nonneg (by omega)]
  · have := timeout_le_maxJobTimeout mem
    omega

theorem sound_of_resolved (resolved : Config.Resolved cfg s) : Sound cfg s := by
  have pool : 0 < s.poolSize := by
    rw [resolved.poolSize]
    split <;> omega
  have perProcess : 0 < s.maxJobPerProcess := by
    rw [resolved.maxJobPerProcess]
    split <;> omega
  obtain ⟨least, leastRead, acceptable⟩ := resolved.acceptable
  obtain ⟨checked, jobsChecked, sorted⟩ := resolved.jobs
  obtain ⟨named, positive⟩ := checked_jobs (mapM_forall₂ jobsChecked)
  have watch := DurationText.orDefault_pos (by decide) resolved.watch
  have cancel := DurationText.orDefault_pos (by decide) resolved.cancel
  refine
    { poolSize_pos := pool
      maxJobPerProcess_pos := perProcess
      queueLoadRows_set := fun set => by rw [resolved.queueLoadRows, if_neg (by omega)]
      queueLoadRows_product := fun unset fits => ?_
      intervals_pos := ⟨watch, DurationText.orDefault_pos (by decide) resolved.reconnect,
        DurationText.orDefault_pos (by decide) resolved.restart,
        DurationText.orDefault_pos (by decide) resolved.queueWatch,
        DurationText.orDefault_pos (by decide) resolved.maintenance, cancel⟩
      jobs_named := by rw [sorted, ← named]; exact (sortJobs_perm checked).map _
      jobs_sorted := sorted ▸ sortJobs_sorted checked
      jobs_pos := fun j mem => positive j ((sortJobs_perm checked).subset (sorted ▸ mem))
      acceptable_eq := ⟨least, leastRead, DurationText.orDefault_pos (by decide) leastRead, acceptable⟩
      acceptable_covers := fun fits => ?_
      shutdown_covers := fun fits => ?_ }
  · -- the row count: both products fit, the inner one being at most the outer
    have inner : s.poolSize * 2 + 1 ≤ s.maxJobPerProcess * (2 * s.poolSize + 1) := by
      rw [mul_comm s.poolSize 2]
      exact le_mul_of_one_le_left (by omega) (by omega)
    have innerWord : Word.wrap (s.poolSize * 2 + 1) = s.poolSize * 2 + 1 :=
      Word.wrap_of_fits (by omega) (by omega)
    rw [resolved.queueLoadRows, if_pos unset, innerWord, mul_comm s.poolSize 2,
      Word.wrap_of_fits (Int.mul_nonneg (by omega) (by omega)) fits]
  · obtain ⟨quotient, covers⟩ := acceptable_share fits
    rw [acceptable, quotient]
    exact ⟨le_max_left _ _, fun j mem => le_trans (covers j mem) (le_max_left _ _)⟩
  · have wait : s.shutdownWait = 3 * s.jobCancelTimeout + 2 * s.watchInterval :=
      Word.wrap_of_fits (by omega) fits
    exact ⟨wait, by omega⟩

end Settings

/-- The settings `Config.resolve` returns are sound: at least one worker and one job per
process, positive intervals and cancel timeout, the document's job types by trimmed name in
name order with positive timeouts and limits, an acceptable period of at least its minimum
from the longest timeout; and where the 64-bit products fit, the queue rows, an acceptable
period covering every timeout, a shutdown wait covering the cancel timeout. -/
theorem resolve_sound {cfg : Config} {s : Settings} (ok : Config.resolve (some cfg) = .ok s) :
    Settings.Sound cfg s :=
  Settings.sound_of_resolved (Config.resolved_of_ok ok)

/-- A document with one job type of an hour is accepted, and its settings are sound. -/
theorem hourly_job_sound :
    let doc : Config :=
      { database := { driver := "sqlite", dsn := "x" }
        jobs := some [("a", { timeout := "1h", maxJobPerProcess := 1 })] }
    ∃ s, Config.resolve (some doc) = .ok s ∧ Settings.Sound doc s := by
  intro doc
  have accepted : (Config.resolve (some doc)).isOk = true := by decide +kernel
  cases ok : Config.resolve (some doc) with
  | error e =>
      rw [ok] at accepted
      cases accepted
  | ok s => exact ⟨s, rfl, resolve_sound ok⟩

/-- Durations too long for the 64-bit products: a job of 900000 hours leaves an acceptable
period of two hours, a cancel timeout of 1111111 hours makes the shutdown wait negative, and
`" a"` and `"a"` become two job types named `a`. -/
theorem long_durations_wrap :
    let doc : Config :=
      { database := { driver := "sqlite", dsn := "x" }
        manager := { jobCancelTimeout := "1111111h" }
        jobs := some [(" a", { timeout := "900000h", maxJobPerProcess := 1 }),
          ("a", { timeout := "1h", maxJobPerProcess := 1 })] }
    (Config.resolve (some doc)).toOption.map (fun s =>
        (s.jobs.map (·.name), s.maxJobTimeout, s.acceptable, s.jobCancelTimeout, s.shutdownWait)) =
      some (["a", "a"], 3240000000000000000, 7200000000000, 3999999600000000000, -6446745271709551616) := by
  decide +kernel

end Foreman

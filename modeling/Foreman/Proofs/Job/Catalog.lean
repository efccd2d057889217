import Mathlib.Data.List.Perm.Basic
import Mathlib.Data.List.Nodup
import Mathlib.Data.String.Basic
import Foreman.Job.Catalog

/-!
# What a built catalog is

`Catalog.build` folds `enroll` over the jobs: an unregistered executor or a name already
indexed stops it with its fault, else every job is taken (`foldlM_enroll`), its name indexed by
its position (`Indexes`). Insertion sort then puts the names in strictly increasing order and
the index is written again, so every name still leads to its own definition (`sortByName`),
by which the catalog is found, listed and measured (`build_represents`); a catalog of settings
keeps their ceilings (`ofSettings_ceilings`). The longest timeout starts from zero, so
all-negative timeouts give zero (`maxTimeout_of_negative_timeout`).
-/

namespace Foreman

set_option autoImplicit false

namespace Catalog

variable {τ : Type}

theorem sortDefs_insert_perm (d : Definition τ) (ds : List (Definition τ)) :
    (sortDefs.insert d ds).Perm (d :: ds) := by
  induction ds with
  | nil => exact .refl _
  | cons e rest ih =>
      unfold sortDefs.insert
      split
      · exact .refl _
      · exact (ih.cons e).trans (.swap d e rest)

theorem sortDefs_perm (ds : List (Definition τ)) : (sortDefs ds).Perm ds := by
  induction ds with
  | nil => exact .refl _
  | cons d rest ih => exact (sortDefs_insert_perm d _).trans (ih.cons d)

/-! ## The name index -/

theorem lookup_cons_pair (n m : String) (j : Nat) (index : List (String × Nat)) :
    ((m, j) :: index).lookup n = if n = m then some j else index.lookup n := by
  by_cases same : n = m
  · simp [same]
  · simp [List.lookup_cons, beq_false_of_ne same, same]

theorem lookup_filter_ne (index : List (String × Nat)) (name n : String) :
    (index.filter (·.1 != name)).lookup n = if n = name then none else index.lookup n := by
  induction index with
  | nil => split <;> rfl
  | cons e rest ih =>
    obtain ⟨m, j⟩ := e
    by_cases dropped : m = name
    · subst dropped
      rw [List.filter_cons_of_neg (by simp), ih, lookup_cons_pair]
      by_cases same : n = m <;> simp [same]
    · rw [List.filter_cons_of_pos (by simpa using dropped), lookup_cons_pair, lookup_cons_pair, ih]
      by_cases same : n = m
      · subst same
        simp [dropped]
      · simp [same]

@[simp] theorem lookup_place (index : List (String × Nat)) (name n : String) (i : Nat) :
    (place index name i).lookup n = if n = name then some i else index.lookup n := by
  rw [place, lookup_cons_pair, lookup_filter_ne]
  split <;> rfl

/-- An index that gives every name the position of its definition, and no other name any. -/
def Indexes (c : Catalog τ) : Prop :=
  ∀ n, c.byName.lookup n = c.defs.findIdx? (·.config.name == n)

/-- The definition at the position of the first one satisfying `p` is that one. -/
theorem findIdx?_bind_getElem? {α : Type} (p : α → Bool) (l : List α) :
    (l.findIdx? p).bind (l[·]?) = l.find? p := by
  induction l with
  | nil => rfl
  | cons a rest ih =>
    rw [List.findIdx?_cons, List.find?_cons]
    cases p a
    · simpa [Option.bind_map, Function.comp_def] using ih
    · rfl

theorem Indexes.lookup {c : Catalog τ} (indexes : c.Indexes) (n : String) :
    c.lookup n = c.defs.find? (·.config.name == n) := by
  rw [Catalog.lookup, indexes n, findIdx?_bind_getElem?]

theorem Indexes.isSome_iff {c : Catalog τ} (indexes : c.Indexes) (n : String) :
    (c.byName.lookup n).isSome ↔ n ∈ c.defs.map (·.config.name) := by
  rw [indexes n, List.findIdx?_isSome]
  simp

theorem foldl_place_zipIdx (l : List (Definition τ)) (distinct : (l.map (·.config.name)).Nodup) :
    ∀ (k : Nat) (index : List (String × Nat)) (n : String),
      ((l.zipIdx k).foldl (fun index (d, i) => place index d.config.name i) index).lookup n =
        ((l.findIdx? (·.config.name == n)).map (· + k)).or (index.lookup n) := by
  induction l with
  | nil => intro k index n; simp
  | cons d rest ih =>
    intro k index n
    simp only [List.map_cons, List.nodup_cons] at distinct
    rw [List.zipIdx_cons, List.foldl_cons, ih distinct.2, lookup_place, List.findIdx?_cons]
    by_cases same : n = d.config.name
    · -- a name placed once is not placed again later
      have later : rest.findIdx? (·.config.name == n) = none := by
        rw [List.findIdx?_eq_none_iff]
        intro e mem
        have : e.config.name ≠ d.config.name := fun eq => distinct.1 (List.mem_map.2 ⟨e, mem, eq⟩)
        simpa [same] using this
      subst same
      simp [later]
    · have other : (d.config.name == n) = false := by simpa using Ne.symm same
      cases rest.findIdx? (·.config.name == n) with
      | none => simp [same, other]
      | some i =>
        simp [same, other]
        omega

theorem Indexes.sortByName {c : Catalog τ} (indexes : c.Indexes)
    (distinct : (c.defs.map (·.config.name)).Nodup) : c.sortByName.Indexes := by
  have perm := sortDefs_perm c.defs
  intro n
  simp only [Catalog.sortByName]
  rw [foldl_place_zipIdx _ ((perm.map _).nodup_iff.2 distinct), indexes n]
  cases sorted : (sortDefs c.defs).findIdx? (·.config.name == n) with
  | some i => rfl
  | none =>
    rw [List.findIdx?_eq_none_iff] at sorted
    simp only [Option.map_none, Option.none_or, List.findIdx?_eq_none_iff]
    exact fun d mem => sorted d (perm.symm.subset mem)

/-! ## The catalog a list of jobs builds -/

/-- Jobs a catalog takes: every executor registered and no name twice. -/
def Admitted (reg : Registry τ) (cfgs : List JobConfig) : Prop :=
  (∀ c ∈ cfgs, (reg.lookup c.executor).isSome) ∧ (cfgs.map (·.name)).Nodup

/-- The fault the job `c` is refused with after the jobs `pre`: an executor that is not
registered is reported before a name configured earlier. -/
def Refuses (reg : Registry τ) (pre : List JobConfig) (c : JobConfig) (e : Fault) : Prop :=
  reg.lookup c.executor = none ∧ e = unknownExecutor c ∨
    (reg.lookup c.executor).isSome ∧ c.name ∈ pre.map (·.name) ∧ e = configuredTwice c

theorem enroll_eq (reg : Registry τ) (acc : Catalog τ) (c : JobConfig) :
    enroll reg acc c = match reg.lookup c.executor with
      | none => .error (unknownExecutor c)
      | some t => if (acc.byName.lookup c.name).isSome then .error (configuredTwice c)
          else .ok ⟨acc.defs ++ [⟨c, t⟩], place acc.byName c.name acc.defs.length⟩ := by
  unfold enroll
  cases reg.lookup c.executor with
  | none => rfl
  | some t => by_cases taken : (acc.byName.lookup c.name).isSome <;> simp [taken] <;> rfl

theorem enroll_eq_ok {reg : Registry τ} {acc acc' : Catalog τ} {c : JobConfig} (indexes : acc.Indexes) :
    enroll reg acc c = .ok acc' ↔
      ∃ t, reg.lookup c.executor = some t ∧ c.name ∉ acc.defs.map (·.config.name) ∧
        acc' = ⟨acc.defs ++ [⟨c, t⟩], place acc.byName c.name acc.defs.length⟩ := by
  rw [enroll_eq]
  cases reg.lookup c.executor with
  | none => simp
  | some t =>
    dsimp only
    by_cases taken : c.name ∈ acc.defs.map (·.config.name)
    · rw [if_pos ((indexes.isSome_iff c.name).2 taken)]
      simp [taken]
    · rw [if_neg (mt (indexes.isSome_iff c.name).1 taken)]
      simp [taken, eq_comm]

theorem enroll_eq_error {reg : Registry τ} {acc : Catalog τ} {c : JobConfig} {e : Fault} (indexes : acc.Indexes) :
    enroll reg acc c = .error e ↔ Refuses reg (acc.defs.map (·.config)) c e := by
  rw [enroll_eq]
  unfold Refuses
  cases reg.lookup c.executor with
  | none => simp [eq_comm]
  | some t =>
    dsimp only
    by_cases taken : c.name ∈ acc.defs.map (·.config.name)
    · rw [if_pos ((indexes.isSome_iff c.name).2 taken)]
      simp [List.map_map, Function.comp_def, taken, eq_comm]
    · rw [if_neg (mt (indexes.isSome_iff c.name).1 taken)]
      simp [List.map_map, Function.comp_def, taken]

theorem Indexes.enroll {acc : Catalog τ} (indexes : acc.Indexes) {c : JobConfig} (t : τ)
    (fresh : c.name ∉ acc.defs.map (·.config.name)) :
    (⟨acc.defs ++ [⟨c, t⟩], place acc.byName c.name acc.defs.length⟩ : Catalog τ).Indexes := by
  intro n
  simp only [lookup_place, List.findIdx?_append, indexes n]
  by_cases same : n = c.name
  · subst same
    have absent : acc.defs.findIdx? (·.config.name == c.name) = none := by
      rw [List.findIdx?_eq_none_iff]
      intro d mem
      have : d.config.name ≠ c.name := fun eq => fresh (List.mem_map.2 ⟨d, mem, eq⟩)
      simpa using this
    simp [absent]
  · have other : (c.name == n) = false := by simpa using Ne.symm same
    cases acc.defs.findIdx? (·.config.name == n) <;> simp [same, other]

/-- The fold of `build` either takes every job, binding each to its executor's job type and
indexing its name, or stops at the first job it refuses, all jobs before it taken. -/
theorem foldlM_enroll (reg : Registry τ) : ∀ (cfgs : List JobConfig) (acc : Catalog τ), acc.Indexes →
    Admitted reg (acc.defs.map (·.config)) → (∀ d ∈ acc.defs, reg.lookup d.config.executor = some d.type) →
    match cfgs.foldlM (enroll reg) acc with
    | .ok c => c.Indexes ∧ Admitted reg (acc.defs.map (·.config) ++ cfgs) ∧
        c.defs.map (·.config) = acc.defs.map (·.config) ++ cfgs ∧
        ∀ d ∈ c.defs, reg.lookup d.config.executor = some d.type
    | .error e => ∃ pre c post, cfgs = pre ++ c :: post ∧
        Admitted reg (acc.defs.map (·.config) ++ pre) ∧ Refuses reg (acc.defs.map (·.config) ++ pre) c e
  | [], acc, indexes, admitted, bound => ⟨indexes, by simpa using admitted, by simp, bound⟩
  | c :: rest, acc, indexes, admitted, bound => by
    rw [List.foldlM_cons]
    cases step : enroll reg acc c with
    | error e =>
      exact ⟨[], c, rest, rfl, by simpa using admitted, by simpa using (enroll_eq_error indexes).1 step⟩
    | ok acc' =>
      obtain ⟨t, found, fresh, rfl⟩ := (enroll_eq_ok indexes).1 step
      have admitted' : Admitted reg (acc.defs.map (·.config) ++ [c]) := by
        refine ⟨fun x mem => ?_, ?_⟩
        · rcases List.mem_append.1 mem with old | new
          · exact admitted.1 x old
          · simp [List.mem_singleton.1 new, found]
        · rw [List.map_append]
          exact admitted.2.append (List.nodup_singleton _) (by simpa using fresh)
      have bound' : ∀ d ∈ acc.defs ++ [Definition.mk c t], reg.lookup d.config.executor = some d.type := by
        intro d mem
        rcases List.mem_append.1 mem with old | new
        · exact bound d old
        · rw [List.mem_singleton.1 new]; exact found
      have later := foldlM_enroll reg rest _ (indexes.enroll t fresh) (by simpa using admitted') bound'
      simp only [bind, Except.bind]
      split at later
      · obtain ⟨indexed, all, configs, bound⟩ := later
        exact ⟨indexed, by simpa using all, by simpa using configs, bound⟩
      · obtain ⟨pre, c', post, rfl, taken, refused⟩ := later
        exact ⟨c :: pre, c', post, rfl, by simpa using taken, by simpa using refused⟩

theorem sortDefs_insert_sorted (d : Definition τ) {ds : List (Definition τ)}
    (sorted : ds.Pairwise fun a b => a.config.name < b.config.name)
    (fresh : d.config.name ∉ ds.map (·.config.name)) :
    (sortDefs.insert d ds).Pairwise fun a b => a.config.name < b.config.name := by
  induction ds with
  | nil => exact List.pairwise_singleton _ _
  | cons e rest ih =>
    obtain ⟨first, sorted⟩ := List.pairwise_cons.1 sorted
    simp only [List.map_cons, List.mem_cons, not_or] at fresh
    unfold sortDefs.insert
    split
    · rename_i before
      exact List.pairwise_cons.2 ⟨fun x mem => (List.mem_cons.1 mem).elim (· ▸ before)
        (fun later => before.trans (first x later)), List.pairwise_cons.2 ⟨first, sorted⟩⟩
    · -- a new name not before `e` comes after it
      have after : e.config.name < d.config.name :=
        lt_of_le_of_ne (not_lt.1 ‹_›) (Ne.symm fresh.1)
      refine List.pairwise_cons.2 ⟨fun x mem => ?_, ih sorted fresh.2⟩
      rcases List.mem_cons.1 ((sortDefs_insert_perm d rest).subset mem) with rfl | later
      · exact after
      · exact first x later

theorem sortDefs_sorted {ds : List (Definition τ)} (distinct : (ds.map (·.config.name)).Nodup) :
    (sortDefs ds).Pairwise fun a b => a.config.name < b.config.name := by
  induction ds with
  | nil => exact List.Pairwise.nil
  | cons d rest ih =>
    simp only [List.map_cons, List.nodup_cons] at distinct
    exact sortDefs_insert_sorted d (ih distinct.2)
      fun mem => distinct.1 (((sortDefs_perm rest).map _).subset mem)

theorem find?_name_eq_some {ds : List (Definition τ)} (distinct : (ds.map (·.config.name)).Nodup)
    (n : String) (d : Definition τ) :
    ds.find? (·.config.name == n) = some d ↔ d ∈ ds ∧ d.config.name = n := by
  constructor
  · intro found
    exact ⟨List.mem_of_find?_eq_some found, by simpa using List.find?_some found⟩
  · rintro ⟨mem, rfl⟩
    cases found : ds.find? (·.config.name == d.config.name) with
    | none => exact absurd (List.find?_eq_none.1 found d mem) (by simp)
    | some d' =>
      have same : d'.config.name = d.config.name := by simpa using List.find?_some found
      rw [List.inj_on_of_nodup_map distinct (List.mem_of_find?_eq_some found) mem same]

theorem foldl_max_timeout (ds : List (Definition τ)) : ∀ m : Int,
    let top := ds.foldl (fun m d => max m d.config.timeout) m
    m ≤ top ∧ (∀ d ∈ ds, d.config.timeout ≤ top) ∧ (top = m ∨ ∃ d ∈ ds, d.config.timeout = top) := by
  induction ds with
  | nil => intro m; simp
  | cons d rest ih =>
    intro m
    obtain ⟨above, bounds, attained⟩ := ih (max m d.config.timeout)
    simp only [List.foldl_cons, List.mem_cons, forall_eq_or_imp, exists_eq_or_imp] at *
    refine ⟨le_trans (le_max_left _ _) above, ⟨le_trans (le_max_right _ _) above, bounds⟩, ?_⟩
    rcases attained with top | later
    · rw [top]
      rcases max_choice m d.config.timeout with h | h <;> rw [h] <;> simp
    · exact .inr (.inr later)

/-- What a catalog built from the jobs `cfgs` is: the jobs in strictly increasing order of their
names, each bound to its executor's job type, found by its name, listed by name, and the
longest timeout, never below zero. -/
structure Represents (reg : Registry τ) (cfgs : List JobConfig) (cat : Catalog τ) : Prop where
  perm : (cat.defs.map (·.config)).Perm cfgs
  sorted : (cat.defs.map (·.config.name)).Pairwise (· < ·)
  bound : ∀ d ∈ cat.defs, reg.lookup d.config.executor = some d.type
  lookup_some : ∀ n d, cat.lookup n = some d ↔ d ∈ cat.defs ∧ d.config.name = n
  lookup_none : ∀ n, cat.lookup n = none ↔ n ∉ cfgs.map (·.name)
  names : cat.names = cat.defs.map (·.config.name)
  timeout_le : ∀ c ∈ cfgs, c.timeout ≤ cat.maxTimeout
  maxTimeout_nonneg : 0 ≤ cat.maxTimeout
  maxTimeout_attained : cat.maxTimeout = 0 ∨ ∃ c ∈ cfgs, c.timeout = cat.maxTimeout

/-- The enrolled definitions of admitted jobs, sorted and indexed again, represent them. -/
theorem represents_sortByName {reg : Registry τ} {cfgs : List JobConfig} {c : Catalog τ} (indexes : c.Indexes)
    (admitted : Admitted reg cfgs) (configs : c.defs.map (·.config) = cfgs)
    (bound : ∀ d ∈ c.defs, reg.lookup d.config.executor = some d.type) :
    Represents reg cfgs c.sortByName := by
  have perm : ((sortDefs c.defs).map (·.config)).Perm cfgs := configs ▸ (sortDefs_perm c.defs).map _
  have distinct : (c.defs.map (·.config.name)).Nodup := by
    simpa [← configs, List.map_map, Function.comp_def] using admitted.2
  have sorted := sortDefs_sorted distinct
  have names : ((sortDefs c.defs).map (·.config.name)).Nodup :=
    (List.pairwise_map.2 sorted).imp ne_of_lt
  have found := (indexes.sortByName distinct).lookup
  obtain ⟨nonneg, le, attained⟩ := foldl_max_timeout (sortDefs c.defs) 0
  have onCfgs : ∀ {P : JobConfig → Prop}, (∀ c ∈ cfgs, P c) ↔ ∀ d ∈ sortDefs c.defs, P d.config :=
    fun {P} => by simp [← perm.mem_iff]
  refine ⟨perm, List.pairwise_map.2 sorted, fun d mem => bound d ((sortDefs_perm c.defs).subset mem),
    fun n d => by rw [found n]; exact find?_name_eq_some names n d, fun n => ?_, rfl, onCfgs.2 le, nonneg, ?_⟩
  · rw [found n, List.find?_eq_none, ← (perm.map (·.name)).mem_iff]
    simp [Catalog.sortByName]
  · rcases attained with zero | ⟨d, mem, top⟩
    · exact .inl zero
    · exact .inr ⟨d.config, perm.subset (List.mem_map_of_mem mem), top⟩

theorem represents_of_build {reg : Registry τ} {cfgs : List JobConfig} {c : Catalog τ}
    (built : build reg cfgs = .ok c) : Admitted reg cfgs ∧ Represents reg cfgs c := by
  have folded := foldlM_enroll reg cfgs ⟨[], []⟩ (fun n => rfl) ⟨by simp, by simp⟩ (by simp)
  cases h : cfgs.foldlM (enroll reg) ⟨[], []⟩ with
  | error e => simp [build, h, bind, Except.bind] at built
  | ok c' =>
    simp only [build, h, bind, Except.bind, pure, Except.pure, Except.ok.injEq] at built folded
    subst built
    obtain ⟨indexes, admitted, configs, bound⟩ := folded
    simp only [List.map_nil, List.nil_append] at admitted configs
    exact ⟨admitted, represents_sortByName indexes admitted configs bound⟩

/-- What the fold of `build` keeps: the definitions so far name each job once, and each
binds a configured job. -/
def Bound (cfgs : List JobConfig) (defs : List (Definition τ)) : Prop :=
  (defs.map (·.config.name)).Nodup ∧ ∀ d ∈ defs, d.config ∈ cfgs

theorem build_bound {reg : Registry τ} {cfgs : List JobConfig} {c : Catalog τ}
    (built : build reg cfgs = .ok c) : Bound cfgs c.defs := by
  obtain ⟨-, represents⟩ := represents_of_build built
  exact ⟨represents.sorted.imp ne_of_lt, fun d mem => represents.perm.subset (List.mem_map_of_mem mem)⟩

/-- A catalog of settings whose jobs may each run at least once allows each job to run at
least once. -/
theorem ofSettings_ceilings {reg : Registry τ} {s : Settings} {c : Catalog τ} (built : ofSettings reg s = .ok c)
    (positive : ∀ j ∈ s.jobs, 1 ≤ j.maxJobPerProcess) : ∀ d ∈ c.defs, 1 ≤ d.config.maxJobPerProcess := by
  intro d mem
  obtain ⟨j, listed, configured⟩ := List.mem_map.mp ((build_bound built).2 d mem)
  rw [← configured]
  exact positive j listed

/-- Building a catalog refuses the first job, in the order given, whose executor is not
registered or whose name was configured before it, and otherwise binds every job. -/
theorem build_represents (reg : Registry τ) (cfgs : List JobConfig) :
    match build reg cfgs with
    | .ok cat => Admitted reg cfgs ∧ Represents reg cfgs cat
    | .error e => ∃ pre c post, cfgs = pre ++ c :: post ∧ Admitted reg pre ∧ Refuses reg pre c e := by
  cases built : build reg cfgs with
  | ok cat => exact represents_of_build built
  | error e =>
    have folded := foldlM_enroll reg cfgs ⟨[], []⟩ (fun n => rfl) ⟨by simp, by simp⟩ (by simp)
    cases h : cfgs.foldlM (enroll reg) ⟨[], []⟩ with
    | ok c => simp [build, h, bind, Except.bind, pure, Except.pure] at built
    | error e' =>
      simp only [build, h, bind, Except.bind, Except.error.injEq] at built folded
      subst built
      simpa using folded

/-- A catalog's longest timeout does not go below zero, even when every job's timeout does. -/
theorem maxTimeout_of_negative_timeout :
    (build (⟨[("a", ())]⟩ : Registry Unit) [⟨"x", "a", -5, 1, none⟩]).map (·.maxTimeout) = .ok 0 := by
  rfl

end Catalog

end Foreman

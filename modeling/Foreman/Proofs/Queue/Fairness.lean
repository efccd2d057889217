import Mathlib.Data.Prod.Lex
import Foreman.Worker.Loop
import Foreman.Proofs.Backend

/-!
# The order in which the queue hands out rows

`Queue.pop` drops the rows of types that may not start, sorts the rest stably by the key (the
organization's running jobs, queue time), and hands out the first (`before_iff_key_le`).
`pop_spec`: it hands out nothing exactly when no row may start, else the row of least key,
first in batch order among equal keys, keeping the others in order (`Queue.Handed`). Every row
a pass of the loop hands out follows the rule (`handouts_fair`), and its bound on rounds never
cuts it short (`launchRows_of_le`).
-/

namespace Foreman

set_option autoImplicit false

namespace Queue

/-! ## The key of a row -/

/-- The key rows are handed out by, least first: the running jobs of the row's organization,
then the row's queue time. -/
def key (running : String → Int) (r : QueueRow) : Lex (Int × Int) :=
  toLex (running r.org, r.queueTime.nanos)

variable {running : String → Int}

theorem before_iff_key_le {a b : QueueRow} : before running a b = true ↔ key running a ≤ key running b := by
  simp only [before, key, Prod.Lex.toLex_le_toLex, Bool.or_eq_true, Bool.and_eq_true, decide_eq_true_eq,
    beq_iff_eq]

theorem before_trans (a b c : QueueRow) :
    before running a b = true → before running b c = true → before running a c = true := by
  simp only [before_iff_key_le]
  exact le_trans

theorem before_total (a b : QueueRow) : (before running a b || before running b a) = true := by
  simp only [Bool.or_eq_true, before_iff_key_le]
  exact le_total _ _

/-! ## One call -/

/-- The rows of a batch whose job types may start, in batch order. -/
def ready (startable : List String) (rows : List QueueRow) : List QueueRow :=
  rows.filter fun r => startable.contains r.job

/-- `r` is handed out of the rows `ready` that may start, and `rest` stays: `r` has the least
key, no row before it in the batch has its key, the rows kept are the others, each once, in
order of their keys, and rows of one key keep the order they had. -/
structure Handed (running : String → Int) (ready : List QueueRow) (r : QueueRow) (rest : List QueueRow) :
    Prop where
  least : ∀ y ∈ ready, key running r ≤ key running y
  first : ∃ pre post, ready = pre ++ r :: post ∧ ∀ y ∈ pre, key running r < key running y
  perm : (r :: rest).Perm ready
  sorted : rest.Pairwise fun a b => key running a ≤ key running b
  stable : ∀ k, (r :: rest).filter (fun y => key running y = k) = ready.filter (fun y => key running y = k)

/-- The sorted rows keep, for each key, the rows of that key in the order they had: those rows
are already in order, so the stable sort keeps them as a sublist, and it has no other. -/
theorem filter_key_mergeSort (rows : List QueueRow) (k : Lex (Int × Int)) :
    (rows.mergeSort (before running)).filter (fun y => key running y = k) =
      rows.filter (fun y => key running y = k) := by
  have inOrder : (rows.filter fun y => key running y = k).Pairwise (fun a b => before running a b) := by
    refine List.Pairwise.imp_of_mem (fun {a b} memA memB _ => ?_) (List.pairwise_of_forall fun _ _ => trivial)
    have sameA := of_decide_eq_true (List.mem_filter.mp memA).2
    have sameB := of_decide_eq_true (List.mem_filter.mp memB).2
    rw [before_iff_key_le, sameA, sameB]
  have kept : (rows.filter fun y => key running y = k).Sublist (rows.mergeSort (before running)) :=
    List.sublist_mergeSort (@before_trans running) before_total inOrder List.filter_sublist
  have kept' := kept.filter (fun y => decide (key running y = k))
  simp only [List.filter_filter, Bool.and_self] at kept'
  exact (kept'.eq_of_length ((List.mergeSort_perm _ _).filter _).length_eq.symm).symm

theorem handed_of_mergeSort {rows : List QueueRow} {r : QueueRow} {rest : List QueueRow}
    (sorted : rows.mergeSort (before running) = r :: rest) : Handed running rows r rest := by
  have perm : (r :: rest).Perm rows := sorted ▸ List.mergeSort_perm _ _
  have inOrder : (r :: rest).Pairwise fun a b => key running a ≤ key running b := by
    have := List.pairwise_mergeSort (@before_trans running) before_total rows
    rw [sorted] at this
    exact this.imp before_iff_key_le.mp
  have least : ∀ y ∈ rows, key running r ≤ key running y := by
    intro y mem
    rcases List.mem_cons.mp (perm.mem_iff.mpr mem) with rfl | later
    · exact le_refl _
    · exact List.rel_of_pairwise_cons inOrder later
  have stable := fun k => sorted ▸ @filter_key_mergeSort running rows k
  refine ⟨least, ?_, perm, List.Pairwise.of_cons inOrder, stable⟩
  -- the first row of the batch with `r`'s key is `r`: it heads that key's rows in both orders
  have heads : rows.filter (fun y => key running y = key running r) =
      r :: rest.filter (fun y => key running y = key running r) := by
    rw [← stable, List.filter_cons_of_pos (by simp)]
  obtain ⟨pre, post, split, others, -, -⟩ := List.filter_eq_cons_iff.mp heads
  refine ⟨pre, post, split, fun y mem => lt_of_le_of_ne (least y (split ▸ List.mem_append_left _ mem)) ?_⟩
  intro same
  exact others y mem (by simp [same])

variable (q : Queue) (startable : List String) (running : String → Int)

theorem pop_eq : q.pop startable running =
    match (ready startable q.rows).mergeSort (before running) with
    | [] => (none, { q with rows := [] })
    | r :: rest => (some r, { q with rows := rest }) := rfl

/-- What one call hands out, over every batch and every load: nothing exactly when no row may
start, and then the batch is emptied; otherwise a row by the rule of `Handed`, the batch left
with the rows kept. -/
theorem pop_spec :
    ((q.pop startable running).1 = none ↔ ∀ r ∈ q.rows, r.job ∉ startable) ∧
      ((q.pop startable running).1 = none → (q.pop startable running).2.rows = []) ∧
      ∀ r, (q.pop startable running).1 = some r →
        Handed running (ready startable q.rows) r (q.pop startable running).2.rows := by
  rw [pop_eq]
  split
  · rename_i none
    have empty : ready startable q.rows = [] := List.eq_nil_of_length_eq_zero <| by
      rw [← @List.length_mergeSort _ (before running), none, List.length_nil]
    refine ⟨iff_of_true rfl fun r mem offered => ?_, fun _ => rfl, fun _ popped => (nomatch popped)⟩
    have : r ∈ ready startable q.rows := List.mem_filter.mpr ⟨mem, by simpa using offered⟩
    simp [empty] at this
  · rename_i r rest sorted
    have handed := handed_of_mergeSort sorted
    have offered : r ∈ ready startable q.rows := handed.perm.subset List.mem_cons_self
    refine ⟨iff_of_false (fun popped => (nomatch popped)) fun none => none r ?_ ?_,
      fun popped => (nomatch popped), fun r' popped => ?_⟩
    · exact (List.mem_filter.mp offered).1
    · simpa using (List.mem_filter.mp offered).2
    · cases popped
      exact handed

theorem pop_length_lt {r : QueueRow} (popped : (q.pop startable running).1 = some r) :
    (q.pop startable running).2.rows.length < q.rows.length := by
  have kept := ((pop_spec q startable running).2.2 r popped).perm.length_eq
  have shorter : (ready startable q.rows).length ≤ q.rows.length := List.length_filter_le _ _
  simp only [List.length_cons] at kept
  omega

theorem pop_of_empty (empty : q.rows = []) : q.pop startable running = (none, q) := by
  obtain ⟨limit, rows⟩ := q
  subst empty
  simp [pop_eq, ready]

end Queue

/-! ## A pass -/

namespace Worker

/-- A row handed out by a pass: the threads and the batch at that moment, the row, and the
batch it left. -/
structure Handout where
  threads : Threads
  rows : List QueueRow
  row : QueueRow
  left : List QueueRow

/-- The row was handed out by the rule of `Queue.Handed`, asked of the threads of that moment:
the job types they may start, and the jobs they run for each organization. -/
def Handout.Fair (h : Handout) : Prop :=
  Queue.Handed (fun o => h.threads.countByOrg o) (Queue.ready h.threads.startable h.rows) h.row h.left

def launchRowsHandouts (ctx : Ctx) (db : Option Nat) (now : Instant) :
    Nat → Worker → BackendM (Worker × List Handout)
  | 0, w => return (w, [])
  | fuel + 1, w => do
    if (w.threads.count : Int) ≥ w.settings.maxJobPerProcess then return (w, [])
    match w.queue.pop w.threads.startable (fun o => w.threads.countByOrg o) with
    | (none, q) => return ({ w with queue := q }, [])
    | (some row, q) =>
      let handed : Handout := ⟨w.threads, w.queue.rows, row, q.rows⟩
      let w := { w with queue := q }
      match w.threads.catalog.lookup row.job with
      | none =>
        let (w, later) ← launchRowsHandouts ctx db now fuel w
        return (w, handed :: later)
      | some d =>
        let n := w.madeOf d.config.executor
        let w := w.bumpMade d.config.executor
        match w.threads.prepare row (fun d r => d.type.new n r d.config) with
        | .error _ =>
          let (w, later) ← launchRowsHandouts ctx db now fuel w
          return (w, handed :: later)
        | .ok (i, ts) =>
          let (taken, ts) ← ts.takeRow i db ctx now
          let ts ← if taken then ts.start i db now else pure ts
          let (w, later) ← launchRowsHandouts ctx db now fuel { w with threads := ts }
          return (w, handed :: later)

variable (ctx : Ctx) (db : Option Nat) (now : Instant)

theorem launchRows_eq_handouts (fuel : Nat) (w : Worker) (b : Backend) :
    (launchRows ctx db now fuel w).run b =
      (((launchRowsHandouts ctx db now fuel w).run b).1.1, ((launchRowsHandouts ctx db now fuel w).run b).2) := by
  fun_induction launchRowsHandouts ctx db now fuel w generalizing b with
  | case1 => rfl
  | case2 =>
      rename_i full
      rw [launchRows]
      simp only [full, ↓reduceIte]
      rfl
  | case3 =>
      rename_i room q popped
      rw [launchRows]
      simp only [room, popped, ↓reduceIte]
      rfl
  | case4 =>
      rename_i room row q popped handed w' unknown ih
      dsimp only [w'] at unknown
      rw [launchRows]
      simp only [room, popped, unknown, ↓reduceIte, BackendM.run_bind, BackendM.run_pure]
      exact ih b
  | case5 =>
      rename_i room row q popped handed w₁ d found n w₂ e refused ih
      dsimp only [w₁] at found
      dsimp only [w₁, w₂, n] at refused
      rw [launchRows]
      simp only [room, popped, found, refused, ↓reduceIte, BackendM.run_bind, BackendM.run_pure]
      exact ih b
  | case6 =>
      rename_i room row q popped handed w₁ d found n w₂ i ts prepared ih
      dsimp only [w₁] at found
      dsimp only [w₁, w₂, n] at prepared
      dsimp only [w₁, w₂, n] at ih ⊢
      rw [launchRows]
      simp only [room, popped, found, prepared, ↓reduceIte, BackendM.run_bind]
      split <;> simp only [BackendM.run_bind, BackendM.run_pure, ih]

/-- A row the queue hands out to a worker is handed out by the rule of `Queue.Handed`. -/
theorem fair_of_pop {w : Worker} {row : QueueRow} {q : Queue}
    (popped : w.queue.pop w.threads.startable (fun o => w.threads.countByOrg o) = (some row, q)) :
    Handout.Fair ⟨w.threads, w.queue.rows, row, q.rows⟩ := by
  have handed := (Queue.pop_spec w.queue w.threads.startable (fun o => w.threads.countByOrg o)).2.2 row
  rw [popped] at handed
  exact handed rfl

theorem handouts_fair (fuel : Nat) (w : Worker) (b : Backend) :
    ∀ h ∈ ((launchRowsHandouts ctx db now fuel w).run b).1.2, h.Fair := by
  fun_induction launchRowsHandouts ctx db now fuel w generalizing b with
  | case1 => exact fun _ mem => nomatch mem
  | case2 => exact fun _ mem => nomatch mem
  | case3 => exact fun _ mem => nomatch mem
  | case4 =>
      rename_i popped handed w' _ ih
      simp only [BackendM.run_bind, BackendM.run_pure, List.forall_mem_cons]
      exact ⟨fair_of_pop popped, ih b⟩
  | case5 =>
      rename_i popped handed w₁ d _ n w₂ e _ ih
      simp only [BackendM.run_bind, BackendM.run_pure, List.forall_mem_cons]
      exact ⟨fair_of_pop popped, ih b⟩
  | case6 =>
      rename_i popped handed w₁ d _ n w₂ i ts _ ih
      simp only [BackendM.run_bind]
      generalize (ts.takeRow i db ctx now).run b = checked
      obtain ⟨⟨taken, ts'⟩, b'⟩ := checked
      cases taken <;>
        simp only [Bool.false_eq_true, ↓reduceIte, BackendM.run_bind, BackendM.run_pure, List.forall_mem_cons] <;>
        exact ⟨fair_of_pop popped, ih _ _⟩

theorem pop_shorter {w : Worker} {row : QueueRow} {q : Queue}
    (popped : w.queue.pop w.threads.startable (fun o => w.threads.countByOrg o) = (some row, q)) :
    q.rows.length < w.queue.rows.length := by
  have shorter := Queue.pop_length_lt _ _ _ (congrArg Prod.fst popped)
  rwa [popped] at shorter

theorem handouts_length_le (fuel : Nat) (w : Worker) (b : Backend) :
    ((launchRowsHandouts ctx db now fuel w).run b).1.2.length ≤ w.queue.rows.length := by
  fun_induction launchRowsHandouts ctx db now fuel w generalizing b with
  | case1 => exact Nat.zero_le _
  | case2 => exact Nat.zero_le _
  | case3 => exact Nat.zero_le _
  | case4 =>
      rename_i q popped handed w' _ ih
      have shorter := pop_shorter popped
      have later : _ ≤ q.rows.length := ih b
      simp only [BackendM.run_bind, BackendM.run_pure, List.length_cons]
      omega
  | case5 =>
      rename_i q popped handed w₁ d _ n w₂ e _ ih
      have shorter := pop_shorter popped
      have later : _ ≤ q.rows.length := ih b
      simp only [BackendM.run_bind, BackendM.run_pure, List.length_cons]
      omega
  | case6 =>
      rename_i q popped handed w₁ d _ n w₂ i ts _ ih
      have shorter := pop_shorter popped
      simp only [BackendM.run_bind]
      generalize (ts.takeRow i db ctx now).run b = checked
      obtain ⟨⟨taken, ts'⟩, b'⟩ := checked
      cases taken <;> simp only [Bool.false_eq_true, ↓reduceIte, BackendM.run_bind, BackendM.run_pure, List.length_cons]
      · have later : _ ≤ q.rows.length := ih ts' b'
        omega
      · have later : _ ≤ q.rows.length := ih ((ts'.start i db now).run b').1 ((ts'.start i db now).run b').2
        omega

theorem launchRows_succ (fuel : Nat) (w : Worker) (b : Backend) (enough : w.queue.rows.length ≤ fuel) :
    (launchRows ctx db now (fuel + 1) w).run b = (launchRows ctx db now fuel w).run b := by
  fun_induction launchRows ctx db now fuel w generalizing b with
  | case1 w =>
      have empty : w.queue.rows = [] := List.eq_nil_of_length_eq_zero (Nat.le_zero.mp enough)
      rw [launchRows]
      split
      · rfl
      · simp only [Queue.pop_of_empty _ _ _ empty]
  | case2 =>
      rename_i full
      rw [launchRows]
      simp only [full, ↓reduceIte]
  | case3 =>
      rename_i room q popped
      rw [launchRows]
      simp only [room, popped, ↓reduceIte]
  | case4 =>
      rename_i room row q popped w' unknown ih
      dsimp only [w'] at unknown
      have shorter := pop_shorter popped
      rw [launchRows]
      simp only [room, popped, unknown, ↓reduceIte]
      exact ih b (by dsimp only [w']; omega)
  | case5 =>
      rename_i room row q popped w₁ d found n w₂ e refused ih
      dsimp only [w₁] at found
      dsimp only [w₁, w₂, n] at refused
      have shorter := pop_shorter popped
      rw [launchRows]
      simp only [room, popped, found, refused, ↓reduceIte]
      exact ih b (by dsimp only [w₂, w₁, bumpMade]; omega)
  | case6 =>
      rename_i room row q popped w₁ d found n w₂ i ts prepared ih
      dsimp only [w₁] at found
      dsimp only [w₁, w₂, n] at prepared
      dsimp only [w₁, w₂, n] at ih ⊢
      have shorter := pop_shorter popped
      rw [launchRows]
      simp only [room, popped, found, prepared, ↓reduceIte, BackendM.run_bind]
      split <;> simp only [BackendM.run_bind, BackendM.run_pure] <;> exact ih _ _ (by dsimp only [bumpMade]; omega)

theorem launchRows_of_le (fuel : Nat) (w : Worker) (enough : w.queue.rows.length ≤ fuel) :
    launchRows ctx db now fuel w = launchRows ctx db now w.queue.rows.length w := by
  induction fuel, enough using Nat.le_induction with
  | base => rfl
  | succ fuel enough ih =>
      rw [← ih]
      exact StateT.ext fun b => launchRows_succ ctx db now fuel w b enough

end Worker

/-- The order in which the queue hands out rows. One `pop`, over every batch and load, hands
out nothing exactly when no row may start, then emptying the batch; otherwise the row of least
key (its organization's running jobs, then queue time) among those that may start, first in
batch order among equals, keeping the others once each by key, in batch order among equals. A
pass over a batch with as many rounds as rows (as `startJobs` runs it) is the noted pass
`launchRowsHandouts`: each row follows that rule against the threads of its moment, at most
the batch is handed out, and more rounds change nothing. -/
theorem queue_fairness :
    (∀ (q : Queue) (startable : List String) (running : String → Int),
      ((q.pop startable running).1 = none ↔ ∀ r ∈ q.rows, r.job ∉ startable) ∧
        ((q.pop startable running).1 = none → (q.pop startable running).2.rows = []) ∧
        ∀ r, (q.pop startable running).1 = some r →
          Queue.Handed running (Queue.ready startable q.rows) r (q.pop startable running).2.rows) ∧
    ∀ (ctx : Ctx) (db : Option Nat) (now : Instant) (w : Worker) (b : Backend),
      let pass := (Worker.launchRowsHandouts ctx db now w.queue.rows.length w).run b
      (Worker.launchRows ctx db now w.queue.rows.length w).run b = (pass.1.1, pass.2) ∧
        (∀ h ∈ pass.1.2, h.Fair) ∧ pass.1.2.length ≤ w.queue.rows.length ∧
        ∀ fuel ≥ w.queue.rows.length,
          Worker.launchRows ctx db now fuel w = Worker.launchRows ctx db now w.queue.rows.length w := by
  refine ⟨Queue.pop_spec, fun ctx db now w b => ?_⟩
  exact ⟨Worker.launchRows_eq_handouts ctx db now _ w b, Worker.handouts_fair ctx db now _ w b,
    Worker.handouts_length_le ctx db now _ w b, fun fuel enough => Worker.launchRows_of_le ctx db now fuel w enough⟩

end Foreman

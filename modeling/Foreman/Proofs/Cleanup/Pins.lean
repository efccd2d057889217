import Foreman.Proofs.Threads.Pins
import Foreman.Proofs.Cleanup.Runs

/-!
# The pin of the clean-up sweep

A sweep pins its handle when it starts and lets it go when it ends, so a running sweep holds
one pin (`CleanupJob.pinsOn`). Every operation of the duty keeps the handles counting it: a
tick that starts a sweep pins the handle given (`tick_agrees`), and settling, releasing,
terminating and the sweep's own run only let it go (`OnlyDrops`, `Rests.drops`,
`settle_drops`, `terminate_drops`).
-/

namespace Foreman

set_option autoImplicit false

namespace CleanupJob

def pinsOn (j : CleanupJob) (k : Nat) : Nat :=
  match j.sweep with
  | some s => if s.result.isNone then onHandle s.db k else 0
  | none => 0

/-- Work of the clean-up duty that starts out holding `n k` pins on each handle `k` and only
lets pins go: the handles count what it holds after, and that is no more than `n`. -/
def OnlyDrops (n : Nat → Nat) (b : Backend) (res : CleanupJob × Backend) : Prop :=
  (∀ (o : Nat → Nat) (r : Nat → Bool),
      b.Agrees (fun k => o k + n k) r → res.2.Agrees (fun k => o k + res.1.pinsOn k) r) ∧
    ∀ k, res.1.pinsOn k ≤ n k

theorem OnlyDrops.refl (j : CleanupJob) (b : Backend) : OnlyDrops j.pinsOn b (j, b) :=
  ⟨fun _ _ agrees => agrees, fun _ => Nat.le_refl _⟩

theorem OnlyDrops.trans {n : Nat → Nat} {b : Backend} {mid res : CleanupJob × Backend}
    (first : OnlyDrops n b mid) (second : OnlyDrops mid.1.pinsOn mid.2 res) : OnlyDrops n b res :=
  ⟨fun o r agrees => second.1 o r (first.1 o r agrees), fun k => (second.2 k).trans (first.2 k)⟩

/-- Work on the database that leaves the handles alone comes first for free. -/
theorem OnlyDrops.of_handles {n : Nat → Nat} {b b' : Backend} {res : CleanupJob × Backend}
    (same : b'.handles = b.handles) (drops : OnlyDrops n b' res) : OnlyDrops n b res :=
  ⟨fun o r agrees => drops.1 o r (agrees.of_handles same), drops.2⟩

theorem OnlyDrops.congr {n n' : Nat → Nat} {b : Backend} {res : CleanupJob × Backend}
    (drops : OnlyDrops n b res) (same : ∀ k, n k = n' k) : OnlyDrops n' b res :=
  ⟨fun o r agrees => drops.1 o r (agrees.congr fun k => by rw [same k]), fun k => same k ▸ drops.2 k⟩

theorem pinsOn_running {j : CleanupJob} {s : Sweep} (sweep : j.sweep = some s) (running : s.result = none)
    (k : Nat) : j.pinsOn k = onHandle s.db k := by
  simp [pinsOn, sweep, running]

variable (now : Instant)

theorem finish_drops (j : CleanupJob) (s : Sweep) (b : Backend) :
    OnlyDrops (onHandle s.db) b ((j.finish s now).run b) := by
  simp only [CleanupJob.finish, BackendM.run_bind, BackendM.run_pure]
  refine ⟨fun o r agrees => agrees.unpin.congr fun k => ?_, fun k => ?_⟩
  · simp [pinsOn]
  · simp [pinsOn]

theorem Rests.drops {j : CleanupJob} {db : Option Nat} {b : Backend} {res : CleanupJob × Backend}
    (rests : Rests now j db b res) : OnlyDrops (onHandle db) b res := by
  obtain ⟨calls, s', b', sameDb, running, handles, finished | waits⟩ := rests
  · rw [finished, ← sameDb]
    exact (finish_drops now _ s' b').of_handles handles
  · -- the sweep waits, and keeps its pin
    rw [waits, ← sameDb]
    refine OnlyDrops.of_handles handles ⟨fun o r agrees => agrees.congr fun k => ?_, fun k => ?_⟩ <;>
      simp [pinsOn, running]

theorem settle_drops (j : CleanupJob) (b : Backend) : OnlyDrops j.pinsOn b ((j.settle now).run b) := by
  unfold CleanupJob.settle
  split
  · rename_i s sweep
    split
    · rename_i w running _
      split
      · rename_i o _
        exact ((resume_rests now j s o b running).drops now).congr fun k => (pinsOn_running sweep running k).symm
      · exact OnlyDrops.refl j b
    · exact OnlyDrops.refl j b
  · exact OnlyDrops.refl j b

theorem release_drops (j : CleanupJob) (name : Option String) (o : Outcome (Option Fault)) (b : Backend) :
    OnlyDrops j.pinsOn b ((j.release name o now).run b) := by
  unfold CleanupJob.release
  split
  · rename_i s sweep
    split
    · rename_i w d rest running _ _
      split
      · exact ((resume_rests now j s o b running).drops now).congr fun k => (pinsOn_running sweep running k).symm
      · exact OnlyDrops.refl j b
    · exact OnlyDrops.refl j b
  · exact OnlyDrops.refl j b

theorem tick_agrees (j : CleanupJob) (db : Option Nat) (b : Backend) {o : Nat → Nat} {r : Nat → Bool}
    (usable : b.Usable r db) (agrees : b.Agrees (fun k => o k + j.pinsOn k) r) :
    ((j.tick db now).run b).2.Agrees (fun k => o k + ((j.tick db now).run b).1.pinsOn k) r ∧
      ∀ k, ((j.tick db now).run b).1.pinsOn k ≤ j.pinsOn k + onHandle db k := by
  unfold CleanupJob.tick
  split
  · rename_i s sweep
    split
    · -- a running sweep only moves the due time
      rw [BackendM.run_pure]
      exact ⟨agrees, fun k => Nat.le_add_right _ _⟩
    · -- an ended sweep, which holds nothing, is forgotten
      rename_i ended
      rw [BackendM.run_pure]
      have free : ∀ k, j.pinsOn k = 0 := fun k => by simp [pinsOn, sweep, ended]
      exact ⟨agrees.congr fun k => by rw [free k]; rfl, fun k => Nat.zero_le _⟩
  · rename_i idle
    split
    · rw [BackendM.run_pure]
      exact ⟨agrees, fun k => Nat.le_add_right _ _⟩
    · rw [BackendM.run_bind]
      have free : ∀ k, j.pinsOn k = 0 := fun k => by simp [pinsOn, idle]
      have pinned := (agrees.congr fun k => by rw [free k]).pin usable
      have drops := (advance_rests now j.catalog.defs { j with info := j.info.setTime (j.next now) }
        { db := db } ((Backend.pin db).run b).2 rfl).drops now
      exact ⟨drops.1 o r pinned, fun k => by rw [free k, Nat.zero_add]; exact drops.2 k⟩

theorem terminate_drops (j : CleanupJob) (release : Option (Outcome (Option Fault))) (b : Backend) :
    OnlyDrops j.pinsOn b (((j.terminate now release).run b).1.2, ((j.terminate now release).run b).2) := by
  unfold CleanupJob.terminate
  split
  · exact OnlyDrops.refl j b
  · rename_i s sweep
    split
    · exact OnlyDrops.refl j b
    · rename_i running
      have same : ∀ k, ({ j with sweep := some { s with ctx := s.ctx.cancel Fault.jobTerminate } } :
          CleanupJob).pinsOn k = j.pinsOn k := fun k => by simp [pinsOn, sweep]
      rw [BackendM.run_bind]
      have settled := (settle_drops now { j with sweep := some { s with ctx := s.ctx.cancel Fault.jobTerminate } }
        b).congr same
      split
      · exact settled
      · split
        · exact settled
        · rw [BackendM.run_bind, BackendM.run_bind]
          split
          · exact settled.trans ((release_drops now _ none _ _).trans (settle_drops now _ _))
          · exact settled.trans ((release_drops now _ none _ _).trans (settle_drops now _ _))

end CleanupJob
end Foreman

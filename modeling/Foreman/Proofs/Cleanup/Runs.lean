import Foreman.Proofs.Backend
import Foreman.Proofs.Jobs.Frames
import Foreman.Cleanup.Sweep

/-!
# Where a run of the sweep comes to rest

A run of the sweep (`CleanupJob.advance`, and `CleanupJob.resume` once a clean-up returns)
calls one job type's clean-up after another, leaving the handles alone and only counting its
calls, and stops as the sweep ends (`finish`) or waits with a clean-up (`Rests`). The lemmas
about the sweep's pin and the shared record are read off this one description.
-/

namespace Foreman

set_option autoImplicit false

namespace CleanupJob

theorem absorb_keeps (s : Sweep) (name : String) (o : Outcome (Option Fault)) :
    (absorb s name o).1.db = s.db ∧ (absorb s name o).1.result = s.result := by
  unfold absorb
  split
  · exact ⟨rfl, rfl⟩
  · split <;> exact ⟨rfl, rfl⟩
  · exact ⟨rfl, rfl⟩

variable (now : Instant)

/-- Where a run of a running sweep of `j` on the handle `db` from `b` comes to rest: at `j` with
more calls counted, a sweep `s'` still running on that handle and the same handles, the sweep
then ends or waits. -/
def Rests (j : CleanupJob) (db : Option Nat) (b : Backend) (res : CleanupJob × Backend) : Prop :=
  ∃ (calls : List (String × Nat)) (s' : Sweep) (b' : Backend),
    s'.db = db ∧ s'.result = none ∧ b'.handles = b.handles ∧
      (res = (({ j with calls := calls } : CleanupJob).finish s' now).run b' ∨
        res = ({ j with calls := calls, sweep := some s' }, b'))

theorem rests_finish (j : CleanupJob) (s : Sweep) (b : Backend) (running : s.result = none) :
    Rests now j s.db b ((j.finish s now).run b) :=
  ⟨j.calls, s, b, rfl, running, rfl, .inl rfl⟩

/-- A run that stopped after a clean-up call, with its handles left alone, rests where it
stopped. -/
theorem Rests.after_call {j : CleanupJob} {db : Option Nat} {b b₁ : Backend} (name : String)
    {res : CleanupJob × Backend} (same : b₁.handles = b.handles) (rests : Rests now (j.bump name) db b₁ res) :
    Rests now j db b res := by
  obtain ⟨calls, s', b', db, running, handles, ends⟩ := rests
  exact ⟨calls, s', b', db, running, handles.trans same, ends⟩

theorem advance_rests (ds : List (Definition JobType)) :
    ∀ (j : CleanupJob) (s : Sweep) (b : Backend), s.result = none →
      Rests now j s.db b ((j.advance s now ds).run b) := by
  induction ds with
  | nil => intro j s b running; exact rests_finish now j s b running
  | cons d rest ih =>
      intro j s b running
      simp only [CleanupJob.advance]
      split
      · rename_i c _
        exact rests_finish now j { s with errors := s.errors ++ [c] } b running
      · simp only [BackendM.run_bind, Backend.handle_run]
        generalize ((Backend.handle s.db).run b).1 = h
        have framed := JobType.cleanUp_handles s.ctx h now b d.type (j.callsOf d.config.name) d.config
        generalize (d.type.cleanUp (j.callsOf d.config.name) s.ctx h now d.config).run b = call at framed ⊢
        obtain ⟨outcome, b₁⟩ := call
        refine Rests.after_call now d.config.name framed ?_
        cases outcome with
        | none =>
            exact ⟨_, { s with rest := d :: rest, waiting := some (d.type.cleanUpWaitsOn (j.callsOf d.config.name)) },
              b₁, rfl, running, rfl, .inr rfl⟩
        | some o =>
            dsimp only
            have kept := absorb_keeps s d.config.name o
            generalize absorb s d.config.name o = out at kept ⊢
            obtain ⟨s', stop⟩ := out
            obtain ⟨sameDb, sameResult⟩ := kept
            rw [← sameDb]
            cases stop
            · exact ih _ s' b₁ (sameResult.trans running)
            · exact rests_finish now _ s' b₁ (sameResult.trans running)

theorem resume_rests (j : CleanupJob) (s : Sweep) (o : Outcome (Option Fault)) (b : Backend)
    (running : s.result = none) : Rests now j s.db b ((j.resume s o now).run b) := by
  unfold CleanupJob.resume
  split
  · exact rests_finish now j s b running
  · rename_i d rest _
    have kept := absorb_keeps { s with waiting := none } d.config.name o
    generalize absorb { s with waiting := none } d.config.name o = out at kept ⊢
    obtain ⟨s', stop⟩ := out
    obtain ⟨sameDb, sameResult⟩ := kept
    rw [← sameDb]
    cases stop
    · exact advance_rests now rest j s' b (sameResult.trans running)
    · exact rests_finish now j s' b (sameResult.trans running)

end CleanupJob

end Foreman

import Foreman.Store.Backend
import Foreman.Proofs.Backend
import Mathlib.Data.List.GetD

/-!
# Handles and their holders

A handle counts the jobs holding it, is retired when the program connects again, and closes
once retired and held by nobody. `Handle.Agrees h n r`: `h` counts `n` and is closed exactly
when retired (`r`) and unheld; `Backend.Agrees b n r` says so of every handle of a backend, a
missing number reading as a default unheld handle. Pinning an open unretired handle adds a
holder (`Agrees.pin`), unpinning removes one (`Agrees.unpin`), retiring keeps them
(`Agrees.retire`), and a fresh handle has none (`Agrees.openHandle`).
-/

namespace Foreman

set_option autoImplicit false

namespace Handle

/-- A handle with `n` holders whose retired flag is `r`: it counts `n`, and it is closed
exactly when it is retired and nobody holds it. -/
structure Agrees (h : Handle) (n : Nat) (r : Bool) : Prop where
  refs : h.refs = n
  retired : h.retired = r
  closed : h.closed = (r && n == 0)

variable {h : Handle} {n : Nat} {r : Bool}

theorem agrees_default : (default : Handle).Agrees 0 false := ⟨rfl, rfl, rfl⟩

theorem agrees_new (d : Dialect) (pattern : String) : (Handle.new d pattern).Agrees 0 false := ⟨rfl, rfl, rfl⟩

theorem Agrees.acquire (agrees : h.Agrees n false) : h.acquire.Agrees (n + 1) false := by
  obtain ⟨refs, retired, closed⟩ := agrees
  refine ⟨?_, retired, ?_⟩
  · simp only [Handle.acquire, refs]
    push_cast
    rfl
  · simpa only [Handle.acquire, Bool.false_and] using closed

/-- The last holder of a retired handle closes it as it lets go. -/
theorem Agrees.release (agrees : h.Agrees (n + 1) r) : h.release.Agrees n r := by
  obtain ⟨refs, retired, closed⟩ := agrees
  have count : h.refs - 1 = n := by omega
  dsimp only [Handle.release]
  split
  · rename_i last
    simp only [count, retired, Bool.and_eq_true, decide_eq_true_eq] at last
    obtain ⟨empty, rfl⟩ := last
    obtain rfl : n = 0 := by omega
    exact ⟨count, retired, rfl⟩
  · rename_i stays
    refine ⟨count, retired, ?_⟩
    rw [closed]
    cases r
    · rfl
    · have held : n ≠ 0 := by
        simp only [count, retired, Bool.and_true, decide_eq_true_eq] at stays
        omega
      simp [held]

theorem Agrees.retire (agrees : h.Agrees n r) : h.retire.Agrees n true := by
  obtain ⟨refs, retired, closed⟩ := agrees
  dsimp only [Handle.retire]
  split
  · rename_i held
    have held : n ≠ 0 := by omega
    refine ⟨refs, rfl, ?_⟩
    rw [closed]
    simp [held]
  · rename_i idle
    obtain rfl : n = 0 := by omega
    exact ⟨refs, rfl, rfl⟩

end Handle

/-! ## The handles of a backend -/

/-- Handle `k` with the holders `n k` and the retired flag `r k`, for every number `k`; a
number with no handle reads as a default handle, which nobody holds and is not retired. -/
def Backend.Agrees (b : Backend) (n : Nat → Nat) (r : Nat → Bool) : Prop :=
  ∀ k, (b.handles.getD k default).Agrees (n k) (r k)

def onHandle (db : Option Nat) (k : Nat) : Nat := if db = some k then 1 else 0

@[simp] theorem Backend.pin_run (i : Nat) (b : Backend) :
    ((Backend.pin (some i)).run b).2 = { b with handles := b.handles.modify i Handle.acquire } := rfl

@[simp] theorem Backend.pin_none_run (b : Backend) : ((Backend.pin none).run b).2 = b := rfl

@[simp] theorem Backend.unpin_none_run (b : Backend) : ((Backend.unpin none).run b).2 = b := rfl

@[simp] theorem Backend.unpin_run (i : Nat) (b : Backend) :
    ((Backend.unpin (some i)).run b).2 = { b with handles := b.handles.modify i Handle.release } := rfl

@[simp] theorem Backend.retire_run (i : Nat) (b : Backend) :
    ((Backend.retire (some i)).run b).2 = { b with handles := b.handles.modify i Handle.retire } := rfl

@[simp] theorem Backend.openHandle_run (h : Handle) (b : Backend) :
    (Backend.openHandle h).run b = (b.handles.length, { b with handles := b.handles ++ [h] }) := rfl

/-- A handle that may be pinned: there is one, and it was not retired. -/
def Backend.Usable (b : Backend) (r : Nat → Bool) : Option Nat → Prop
  | some k => k < b.handles.length ∧ r k = false
  | none => True

theorem Backend.usable_pin {b : Backend} {r : Nat → Bool} {db db' : Option Nat} (usable : b.Usable r db) :
    ((Backend.pin db').run b).2.Usable r db := by
  cases db' <;> cases db <;> simp_all [Backend.Usable]

theorem onHandle_of_usable {b : Backend} {r : Nat → Bool} {db : Option Nat} (usable : b.Usable r db) {k : Nat}
    (retired : r k = true) : onHandle db k = 0 := by
  cases db with
  | none => rfl
  | some i =>
      by_cases same : i = k
      · subst same
        simp [Backend.Usable, retired] at usable
      · simp [onHandle, same]

theorem getD_modify (l : List Handle) (i k : Nat) (f : Handle → Handle) :
    (l.modify i f).getD k default = if i = k ∧ k < l.length then f (l.getD k default) else l.getD k default := by
  simp only [List.getD_eq_getElem?_getD, List.getElem?_modify]
  by_cases inRange : k < l.length
  · simp only [List.getElem?_eq_getElem inRange, Option.map_eq_map, Option.map_some, Option.getD_some, inRange,
      and_true]
  · simp only [List.getElem?_eq_none (Nat.le_of_not_lt inRange), Option.map_eq_map, Option.map_none, inRange,
      and_false, ↓reduceIte]

namespace Backend.Agrees

variable {b b' : Backend} {n : Nat → Nat} {r : Nat → Bool}

theorem congr {n' : Nat → Nat} (agrees : b.Agrees n r) (same : ∀ k, n k = n' k) : b.Agrees n' r := by
  intro k
  rw [← same k]
  exact agrees k

theorem retired_eq (agrees : b.Agrees n r) (k : Nat) : (b.handles.getD k default).retired = r k :=
  (agrees k).retired

theorem self (agrees : b.Agrees n r) : b.Agrees n fun k => (b.handles.getD k default).retired := by
  intro k
  dsimp only
  rw [agrees.retired_eq k]
  exact agrees k

theorem of_handles (agrees : b.Agrees n r) (same : b'.handles = b.handles) : b'.Agrees n r := by
  intro k
  rw [same]
  exact agrees k

theorem none_beyond (agrees : b.Agrees n r) {k : Nat} (beyond : b.handles.length ≤ k) : n k = 0 ∧ r k = false := by
  have default_agrees := agrees k
  rw [List.getD_eq_default _ _ beyond] at default_agrees
  obtain ⟨refs, retired, -⟩ := default_agrees
  have unheld : (default : Handle).refs = 0 := rfl
  exact ⟨by omega, retired.symm⟩

theorem pin (agrees : b.Agrees n r) {db : Option Nat} (usable : b.Usable r db) :
    ((Backend.pin db).run b).2.Agrees (fun k => n k + onHandle db k) r := by
  cases db with
  | none => exact agrees.congr fun k => by simp [onHandle]
  | some i =>
      obtain ⟨exists_, open_⟩ := usable
      intro k
      simp only [Backend.pin_run, getD_modify, onHandle, Option.some.injEq]
      by_cases same : i = k
      · subst same
        simp only [exists_, and_self, ↓reduceIte]
        have held := agrees i
        rw [open_] at held ⊢
        exact held.acquire
      · simp only [same, false_and, ↓reduceIte, Nat.add_zero]
        exact agrees k

theorem unpin {db : Option Nat} (agrees : b.Agrees (fun k => n k + onHandle db k) r) :
    ((Backend.unpin db).run b).2.Agrees n r := by
  cases db with
  | none => exact agrees.congr fun k => by simp [onHandle]
  | some i =>
      intro k
      simp only [Backend.unpin_run, getD_modify]
      by_cases same : i = k
      · subst same
        have exists_ : i < b.handles.length := Nat.lt_of_not_le fun beyond => by
          have := (agrees.none_beyond beyond).1
          simp [onHandle] at this
        simp only [exists_, and_self, ↓reduceIte]
        exact (by simpa [onHandle] using agrees i : (b.handles.getD i default).Agrees (n i + 1) (r i)).release
      · simp only [same, false_and, ↓reduceIte]
        simpa [onHandle, same] using agrees k

theorem retire {i : Nat} (agrees : b.Agrees n r) (exists_ : i < b.handles.length) :
    ((Backend.retire (some i)).run b).2.Agrees n (fun k => r k || i == k) := by
  intro k
  simp only [Backend.retire_run, getD_modify]
  by_cases same : i = k
  · subst same
    simp only [exists_, and_self, ↓reduceIte, beq_self_eq_true, Bool.or_true]
    exact (agrees i).retire
  · simp only [same, false_and, ↓reduceIte, beq_false_of_ne same, Bool.or_false]
    exact agrees k

theorem openHandle {h : Handle} (agrees : b.Agrees n r) (fresh : h.Agrees 0 false) :
    ((Backend.openHandle h).run b).2.Agrees n r := by
  intro k
  simp only [Backend.openHandle_run]
  by_cases old : k < b.handles.length
  · rw [List.getD_append _ _ _ _ old]
    exact agrees k
  · obtain ⟨none_, unretired⟩ := agrees.none_beyond (Nat.le_of_not_lt old)
    rw [none_, unretired]
    by_cases last : k = b.handles.length
    · subst last
      simpa using fresh
    · rw [List.getD_eq_default _ _ (by simp; omega)]
      exact Handle.agrees_default

end Backend.Agrees

end Foreman

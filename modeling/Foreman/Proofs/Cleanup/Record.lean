import Mathlib.Data.Nat.Digits.Lemmas
import Foreman.Cleanup.Record
import Foreman.Proofs.Cleanup.Duty

/-!
# The due time in the record on disk

A handle keeps the due time as the little-endian signed 64-bit word at offset 8 of the file
it maps. Writing a word and reading it back gives the word (`word_setWord`), so every handle
on the file reads the stamp last written (`stamp_write`), and the record on disk keeps a due
time exactly as the record in memory does: the zero time reads back as itself, and so does
every instant that fits the word and is not the Unix epoch (`due_time_reads_back`). The epoch
itself is stored as 0, the word for "no time", and reads back as the zero time
(`epoch_reads_back_as_no_time`).
-/

namespace Foreman

set_option autoImplicit false

theorem Word.wrap_bounds (x : Int) : -9223372036854775808 ≤ Word.wrap x ∧ Word.wrap x < 9223372036854775808 := by
  unfold Word.wrap Word.modulus
  omega

namespace RecordDisk

theorem decode_digits (u n : Nat) :
    (((List.range n).map fun i => u / Nat.pow 256 i % 256).zipIdx.map fun (b, i) => b * Nat.pow 256 i).foldr
      (· + ·) 0 = u % Nat.pow 256 n := by
  rw [← List.sum_eq_foldr]
  induction n with
  | zero => simp [Nat.mod_one]
  | succ n ih =>
    rw [List.range_succ, List.map_append, List.zipIdx_append, List.map_append, List.sum_append, ih]
    simp [Nat.pow_eq, Nat.mod_pow_succ, Nat.mul_comm]

variable {d : RecordDisk} {n o : Nat}

theorem bytes_setWord (v : Int) (room : o + 8 ≤ (d.bytes n).length) :
    (d.setWord n o v).bytes n = (d.bytes n).take o ++
      (List.range 8).map (fun i => (v % 18446744073709551616).toNat / Nat.pow 256 i % 256) ++ (d.bytes n).drop (o + 8) := by
  have mapped : n < d.nodes.length := by
    by_contra far
    simp [bytes, List.getD_eq_getElem?_getD, List.getElem?_eq_none (Nat.le_of_not_lt far)] at room
  simp [bytes, setWord, List.getD_eq_getElem?_getD, mapped]

theorem length_setWord (v : Int) (room : o + 8 ≤ (d.bytes n).length) :
    ((d.setWord n o v).bytes n).length = (d.bytes n).length := by
  rw [bytes_setWord v room]
  simp
  omega

theorem word_setWord {v : Int} (low : -9223372036854775808 ≤ v) (high : v < 9223372036854775808)
    (room : o + 8 ≤ (d.bytes n).length) : (d.setWord n o v).word n o = v := by
  have before : ((d.bytes n).take o).length = o := by simp; omega
  unfold word
  dsimp only
  rw [bytes_setWord v room, List.append_assoc, List.drop_left' before, List.take_left' (by simp),
    decode_digits]
  have nonneg : 0 ≤ v % 18446744073709551616 := Int.emod_nonneg v (by decide)
  have below : v % 18446744073709551616 < 18446744073709551616 := Int.emod_lt_of_pos v (by decide)
  have unsigned : (((v % 18446744073709551616).toNat % Nat.pow 256 8 : Nat) : Int) = v % 18446744073709551616 := by
    rw [Nat.mod_eq_of_lt (by rw [Nat.pow_eq]; omega), Int.toNat_of_nonneg nonneg]
  simp only [unsigned]
  split <;> omega

theorem stamp_write {h h' : RecordHandle} (i : CleanupInfo) (room : 16 ≤ (d.bytes h.node).length)
    (same : h'.node = h.node) (low : -9223372036854775808 ≤ i.stamp) (high : i.stamp < 9223372036854775808) :
    ((d.write h i).read h').stamp = i.stamp := by
  have kept : 8 + 8 ≤ ((d.setWord h.node 0 i.pid).bytes h.node).length := by
    rw [length_setWord i.pid (by omega)]
    omega
  simp only [read, write, same]
  exact word_setWord low high kept

end RecordDisk

namespace CleanupInfo

theorem time_eq_of_stamp {i j : CleanupInfo} (same : i.stamp = j.stamp) : i.time = j.time := by
  unfold time
  rw [same]

theorem setTime_stamp_bounds (i : CleanupInfo) (t : Instant) :
    -9223372036854775808 ≤ (i.setTime t).stamp ∧ (i.setTime t).stamp < 9223372036854775808 := by
  unfold setTime
  split
  · simp
  · exact Word.wrap_bounds t.nanos

theorem time_setTime_zero (i : CleanupInfo) {t : Instant} (zero : t.isZero = true) : (i.setTime t).time = Instant.zero := by
  simp [time, setTime, zero]

end CleanupInfo

namespace RecordDisk

/-- The due time reads back from the record in memory and from every handle on a mapped
record: the zero time as the zero time, and an instant that fits the signed 64-bit word of
nanoseconds and is not the Unix epoch as itself. -/
theorem due_time_reads_back (i : CleanupInfo) (d : RecordDisk) {h h' : RecordHandle}
    (room : 16 ≤ (d.bytes h.node).length) (same : h'.node = h.node) (t : Instant) :
    (t.isZero = true →
        (i.setTime t).time = Instant.zero ∧ ((d.write h ((d.read h).setTime t)).read h').time = Instant.zero) ∧
      (CleanupInfo.Storable t → (i.setTime t).time = t ∧ ((d.write h ((d.read h).setTime t)).read h').time = t) := by
  have shared : ((d.write h ((d.read h).setTime t)).read h').time = ((d.read h).setTime t).time :=
    CleanupInfo.time_eq_of_stamp (stamp_write _ room same (CleanupInfo.setTime_stamp_bounds _ t).1
      (CleanupInfo.setTime_stamp_bounds _ t).2)
  rw [shared]
  exact ⟨fun zero => ⟨CleanupInfo.time_setTime_zero i zero, CleanupInfo.time_setTime_zero _ zero⟩,
    fun storable => ⟨CleanupInfo.time_setTime i storable, CleanupInfo.time_setTime _ storable⟩⟩

/-- A deadline one nanosecond after the epoch on a fresh sixteen-byte record. -/
theorem due_time_reads_back_on_fresh_record :
    let d : RecordDisk := { nodes := [List.replicate 16 0] }
    let h : RecordHandle := ⟨"c.info", 0, true⟩
    16 ≤ (d.bytes h.node).length ∧ ((d.write h ((d.read h).setTime ⟨1⟩)).read h).time = ⟨1⟩ :=
  ⟨by decide, ((due_time_reads_back {} { nodes := [List.replicate 16 0] } (h := ⟨"c.info", 0, true⟩) (by decide) rfl ⟨1⟩).2
    ⟨by decide, by decide, by decide⟩).2⟩

/-- The Unix epoch, written to a record, reads back as the zero time. -/
theorem epoch_reads_back_as_no_time :
    let d : RecordDisk := { nodes := [List.replicate 16 0] }
    let h : RecordHandle := ⟨"c.info", 0, true⟩
    ((d.write h ((d.read h).setTime ⟨0⟩)).read h).time ≠ ⟨0⟩ :=
  fun epoch => absurd (congrArg Instant.nanos epoch) (by decide)

end RecordDisk

end Foreman

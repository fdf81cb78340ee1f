/-
  FaultWatch/Proofs/Registry/Room.lean
  ====================================
  **The largest table.**

  A table with room for more threads has more slots, but it gets them in leaps, from one
  power of two to the next.  So the largest capacity is decided by the largest power of
  two whose slots still fit into one block of memory (`tableBytes_two_pow_le_iff`): seven
  eighths of these slots can be asked for, and not one more (`Config.fits_iff`).
-/
import FaultWatch.Registry.Room
import Mathlib.Algebra.Group.Nat.Defs

namespace FaultWatch

theorem exists_ceilPowTwo_eq (n : Nat) : ∃ k, ceilPowTwo n = 2 ^ k := by
  unfold ceilPowTwo
  split
  · exact ⟨0, rfl⟩
  · exact ⟨_, Nat.one_shiftLeft _⟩

theorem ceilPowTwo_le_iff (n k : Nat) : ceilPowTwo n ≤ 2 ^ k ↔ n ≤ 2 ^ k := by
  have hpos : 0 < 2 ^ k := Nat.two_pow_pos k
  unfold ceilPowTwo
  split
  · omega
  · have hne : n - 1 ≠ 0 := by omega
    rw [Nat.one_shiftLeft, Nat.pow_le_pow_iff_right (by decide), Nat.succ_le_iff,
      Nat.log2_lt hne]
    omega

theorem exists_slotsFor_eq (capacity : Nat) : ∃ k, slotsFor capacity = 2 ^ k := by
  unfold slotsFor
  split
  · exact ⟨2, rfl⟩
  · split
    · exact ⟨3, rfl⟩
    · exact exists_ceilPowTwo_eq _

theorem slotsFor_le_iff (capacity : Nat) :
    slotsFor capacity ≤ 2 ^ 58 ↔ capacity ≤ 7 * 2 ^ 55 := by
  unfold slotsFor
  split
  · omega
  · split
    · omega
    · rw [ceilPowTwo_le_iff]
      omega

/-- A table can have 2 to the power of 58 slots, and not twice as many. -/
theorem tableBytes_two_pow_le_iff (k : Nat) : tableBytes (2 ^ k) ≤ largestBlock ↔ k ≤ 58 := by
  have hblock : largestBlock = 2 ^ 63 - 16 := rfl
  rw [tableBytes, hblock]
  rcases Nat.lt_or_ge 58 k with hk | hk
  · have hslots : 2 ^ 59 ≤ 2 ^ k := Nat.pow_le_pow_right (by decide) hk
    omega
  · have hslots : 2 ^ k ≤ 2 ^ 58 := Nat.pow_le_pow_right (by decide) hk
    omega

/-- **The largest capacity**: seven eighths of the slots that a table can have. -/
theorem Config.fits_iff (c : Config) : c.Fits ↔ c.capacity ≤ 7 * 2 ^ 55 := by
  obtain ⟨k, hslots⟩ := exists_slotsFor_eq c.capacity
  have hpow : 2 ^ k ≤ 2 ^ 58 ↔ k ≤ 58 := Nat.pow_le_pow_iff_right (by decide)
  rw [Config.Fits, hslots, tableBytes_two_pow_le_iff, ← hpow, ← hslots, slotsFor_le_iff]
  omega

/-- One thread more, and the table needs twice as many slots. -/
example : slotsFor (7 * 2 ^ 55) = 2 ^ 58 ∧ slotsFor (7 * 2 ^ 55 + 1) = 2 ^ 59 := by decide

end FaultWatch

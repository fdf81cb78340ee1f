/-
  FaultWatch/Proofs/EventMask/Known.lean
  ======================================
  **Which bits of a word belong to flags.**

  A mask is compared with another bit by bit (`EventMask.eq_of_getLsbD`).  The bits that
  belong to flags are those at the positions of the flags (`getLsbD_knownBits_iff`), so a
  mask falls apart into its known part and its residue, and the operations on masks
  either respect this division or, as the complement does, drop the residue.
-/
import FaultWatch.EventMask.Basic

namespace FaultWatch

/-- A bit of a union is a bit of what it started with or of one of the words. -/
theorem getLsbD_foldl_or {α : Type} (f : α → BitVec 32) (xs : List α) (acc : BitVec 32)
    (i : Nat) :
    (xs.foldl (fun acc x => acc ||| f x) acc).getLsbD i = true ↔
      acc.getLsbD i = true ∨ ∃ x ∈ xs, (f x).getLsbD i = true := by
  induction xs generalizing acc with
  | nil => simp
  | cons x rest ih =>
    rw [List.foldl_cons, ih, BitVec.getLsbD_or, Bool.or_eq_true]
    simp [or_assoc]

/-- Taking bits away works on each bit by itself, also beyond the width of the words. -/
theorem getLsbD_and_not (v w : BitVec 32) (i : Nat) :
    (v &&& ~~~w).getLsbD i = (v.getLsbD i && !w.getLsbD i) := by
  rw [BitVec.getLsbD_and, BitVec.getLsbD_not]
  by_cases hi : i < 32
  · simp [hi]
  · simp [BitVec.getLsbD_of_ge v i (Nat.le_of_not_lt hi)]

theorem EventFlag.getLsbD_bits_iff (f : EventFlag) (i : Nat) :
    f.bits.getLsbD i = true ↔ f.position = i := by
  rw [bits, BitVec.getLsbD_twoPow]
  simp [f.position_lt]

namespace EventMask

/-- **The known bits are the positions of the flags.** -/
theorem getLsbD_knownBits_iff (i : Nat) :
    knownBits.getLsbD i = true ↔ ∃ f : EventFlag, f.position = i := by
  rw [knownBits, getLsbD_foldl_or]
  simp [EventFlag.getLsbD_bits_iff, EventFlag.mem_all]

theorem getLsbD_knownBits (f : EventFlag) : knownBits.getLsbD f.position = true :=
  (getLsbD_knownBits_iff _).mpr ⟨f, rfl⟩

/-! ### Masks bit by bit -/

theorem eq_of_getLsbD {a b : EventMask}
    (h : ∀ i, i < 32 → a.bits.getLsbD i = b.bits.getLsbD i) : a = b := by
  have hbits : a.bits = b.bits := BitVec.eq_of_getLsbD_eq h
  cases a
  cases b
  simpa using hbits

/-- **A mask contains a flag if it has its bit.** -/
theorem contains_mask_iff (m : EventMask) (f : EventFlag) :
    m.contains f.mask = true ↔ m.has f = true := by
  rw [contains, decide_eq_true_iff]
  constructor
  · intro h
    have hbit : (m.bits &&& f.bits).getLsbD f.position = f.bits.getLsbD f.position :=
      congrArg (BitVec.getLsbD · f.position) h
    rw [BitVec.getLsbD_and, (f.getLsbD_bits_iff _).mpr rfl, Bool.and_true] at hbit
    exact hbit
  · intro h
    apply BitVec.eq_of_getLsbD_eq
    intro i _
    rw [BitVec.getLsbD_and]
    cases hi : f.mask.bits.getLsbD i with
    | false => simp
    | true =>
      obtain rfl := (f.getLsbD_bits_iff i).mp hi
      simpa [has] using h

theorem mem_flags_iff (m : EventMask) (f : EventFlag) : f ∈ m.flags ↔ m.has f = true := by
  simp [flags, f.mem_all]

/-- A bit of the residue is a bit that no flag has. -/
theorem getLsbD_residue_iff (m : EventMask) (i : Nat) :
    m.residue.getLsbD i = true ↔
      m.bits.getLsbD i = true ∧ ∀ f : EventFlag, f.position ≠ i := by
  rw [residue, getLsbD_and_not, Bool.and_eq_true, Bool.not_eq_true', ← Bool.not_eq_true,
    getLsbD_knownBits_iff, not_exists]

end EventMask

end FaultWatch

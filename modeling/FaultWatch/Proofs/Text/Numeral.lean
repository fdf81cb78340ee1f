/-
  FaultWatch/Proofs/Text/Numeral.lean
  ===================================
  **Hexadecimal numerals without leading zeros.**

  A number is written with as many digits as it needs, the last one being its remainder
  by sixteen and those before it the numeral of the quotient (`Text.ofNat_step`).  So
  reading a numeral gives its number back, its digits are the sixteen lowercase ones, and
  only zero is written with a zero in front.
-/
import FaultWatch.Text.Numeral

namespace FaultWatch.Text

/-- The digits of a numeral, by ascending value. -/
def hexDigits : Text := "0123456789abcdef".toList

theorem mem_hexDigits_iff {c : Char} : c ∈ hexDigits ↔ ∃ d < 16, Nat.digitChar d = c := by
  have hdigits : hexDigits = (List.range 16).map Nat.digitChar := by decide
  simp only [hdigits, List.mem_map, List.mem_range]

theorem digitChar_mem_hexDigits {d : Nat} (h : d < 16) : Nat.digitChar d ∈ hexDigits :=
  mem_hexDigits_iff.mpr ⟨d, h, rfl⟩

theorem ofNat_digit {n : Nat} (h : n < 16) : ofNat 16 n = [Nat.digitChar n] :=
  Nat.toDigits_of_lt_base h

theorem ofNat_step {n : Nat} (h : 16 ≤ n) :
    ofNat 16 n = ofNat 16 (n / 16) ++ [Nat.digitChar (n % 16)] :=
  Nat.toDigits_of_base_le (by decide) h

theorem ofNat_ne_nil (n : Nat) : ofNat 16 n ≠ [] := by
  by_cases h : n < 16
  · simp [ofNat_digit h]
  · simp [ofNat_step (Nat.le_of_not_lt h)]

theorem mem_hexDigits_of_mem_ofNat {n : Nat} {c : Char} (hc : c ∈ ofNat 16 n) :
    c ∈ hexDigits := by
  induction n using Nat.strongRecOn with
  | ind n ih =>
    by_cases h : n < 16
    · rw [ofNat_digit h, List.mem_singleton] at hc
      rw [hc]
      exact digitChar_mem_hexDigits h
    · have hle : 16 ≤ n := Nat.le_of_not_lt h
      rw [ofNat_step hle, List.mem_append, List.mem_singleton] at hc
      rcases hc with hc | rfl
      · exact ih (n / 16) (by omega) hc
      · exact digitChar_mem_hexDigits (by omega)

/-- **Reading a numeral gives its number back.** -/
theorem readHexFrom?_ofNat (n : Nat) : readHexFrom? 0 (ofNat 16 n) = some n := by
  induction n using Nat.strongRecOn with
  | ind n ih =>
    by_cases h : n < 16
    · rw [ofNat_digit h]
      simp [readHexFrom?, hexValue?_digitChar h]
    · have hle : 16 ≤ n := Nat.le_of_not_lt h
      rw [ofNat_step hle, readHexFrom?_append, ih (n / 16) (by omega)]
      have hd : n % 16 < 16 := Nat.mod_lt _ (by decide)
      simp only [Option.bind_some, readHexFrom?, hexValue?_digitChar hd]
      rw [Nat.div_add_mod]

theorem readHex?_of_ne_nil {digits : Text} (h : digits ≠ []) :
    readHex? digits = readHexFrom? 0 digits := by
  cases digits with
  | nil => exact absurd rfl h
  | cons c rest => rfl

theorem readHex?_ofNat (n : Nat) : readHex? (ofNat 16 n) = some n := by
  rw [readHex?_of_ne_nil (ofNat_ne_nil n), readHexFrom?_ofNat]

theorem head?_ofNat_ne_zero {n : Nat} (hn : n ≠ 0) : (ofNat 16 n).head? ≠ some '0' := by
  induction n using Nat.strongRecOn with
  | ind n ih =>
    by_cases h : n < 16
    · have small : ∀ e : Fin 16, e.val ≠ 0 → Nat.digitChar e ≠ '0' := by decide
      rw [ofNat_digit h, List.head?_cons, ne_eq, Option.some.injEq]
      exact small ⟨n, h⟩ hn
    · have hle : 16 ≤ n := Nat.le_of_not_lt h
      have hfirst := ih (n / 16) (by omega) (by omega)
      rw [ofNat_step hle]
      cases hdigits : ofNat 16 (n / 16) with
      | nil => exact absurd hdigits (ofNat_ne_nil _)
      | cons c rest => simpa [hdigits] using hfirst

end FaultWatch.Text

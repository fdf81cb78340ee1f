/-
  FaultWatch/Text/Numeral.lean
  ============================
  **Numbers as digits.**

  A text is the list of its characters; `String` is met only where a caller
  prints one. This file writes a natural number in a base of at most sixteen,
  writes it as a fixed number of lowercase hexadecimal digits, and reads
  hexadecimal digits back.

  The fixed width matters: two texts of one width compare as their numbers do,
  so a sorted list of handles is also sorted as text.
-/

namespace FaultWatch

/-- A text, as the list of its characters. -/
abbrev Text := List Char

namespace Text

/-! ### Writing -/

/-- The digits of `n` in `base`, most significant first, without leading zeros;
    zero is the single digit `0`. Digits above nine are lowercase letters. -/
def ofNat (base n : Nat) : Text := Nat.toDigits base n

/-- The same digits with capital letters above nine. -/
def ofNatUpper (base n : Nat) : Text := (ofNat base n).map Char.toUpper

/-- The low `width` hexadecimal digits of `n`, zeros in front included. -/
def fixedHex : (width n : Nat) → Text
  | 0, _ => []
  | width + 1, n => fixedHex width (n / 16) ++ [Nat.digitChar (n % 16)]

@[simp] theorem length_fixedHex (width n : Nat) : (fixedHex width n).length = width := by
  induction width generalizing n with
  | zero => rfl
  | succ width ih => simp [fixedHex, ih]

/-! ### Reading -/

/-- The value of a hexadecimal digit, a letter in either case. -/
def hexValue? (c : Char) : Option Nat :=
  if '0' ≤ c ∧ c ≤ '9' then some (c.toNat - '0'.toNat)
  else if 'a' ≤ c ∧ c ≤ 'f' then some (c.toNat - 'a'.toNat + 10)
  else if 'A' ≤ c ∧ c ≤ 'F' then some (c.toNat - 'A'.toNat + 10)
  else none

/-- Read hexadecimal digits behind the value `acc` of the digits before them. -/
def readHexFrom? (acc : Nat) : Text → Option Nat
  | [] => some acc
  | c :: rest =>
    match hexValue? c with
    | some d => readHexFrom? (16 * acc + d) rest
    | none => none

/-- Read a whole text of hexadecimal digits; there has to be at least one. -/
def readHex? : Text → Option Nat
  | [] => none
  | digits => readHexFrom? 0 digits

theorem hexValue?_digitChar {d : Nat} (h : d < 16) : hexValue? (Nat.digitChar d) = some d := by
  have all : ∀ e : Fin 16, hexValue? (Nat.digitChar e) = some e.val := by decide
  exact all ⟨d, h⟩

theorem readHexFrom?_append (acc : Nat) (s t : Text) :
    readHexFrom? acc (s ++ t) = (readHexFrom? acc s).bind (readHexFrom? · t) := by
  induction s generalizing acc with
  | nil => rfl
  | cons c rest ih =>
    cases h : hexValue? c with
    | none => simp [readHexFrom?, h]
    | some d => simp [readHexFrom?, h, ih]

/-- **Reading a fixed-width numeral gives the number back**, as far as the width
    reaches. -/
theorem readHexFrom?_fixedHex (width n : Nat) :
    readHexFrom? 0 (fixedHex width n) = some (n % Nat.pow 16 width) := by
  induction width generalizing n with
  | zero => simp [fixedHex, readHexFrom?, Nat.mod_one]
  | succ width ih =>
    have hd : n % 16 < 16 := Nat.mod_lt _ (by decide)
    rw [fixedHex, readHexFrom?_append, ih]
    simp only [Option.bind_some, readHexFrom?, hexValue?_digitChar hd]
    have hpow : Nat.pow 16 (width + 1) = 16 * Nat.pow 16 width := Nat.mul_comm _ _
    rw [hpow, Nat.mod_mul]
    congr 1
    omega

end Text

end FaultWatch

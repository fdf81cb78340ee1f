/-
  FaultWatch/Handle/Basic.lean
  ============================
  **Handles of the managed runtime.**

  The runtime names its threads and functions by opaque 64-bit words. A handle
  is such a word together with the kind of thing it names, so a function can
  never be passed where a thread is meant. A handle is written as `0x` and
  sixteen lowercase hexadecimal digits, whatever its value.

  Zero is the null handle. It is an ordinary value here; only words that arrive
  unchecked are screened for it (`FaultWatch/Failure.lean`).
-/
import FaultWatch.Text.Shape

namespace FaultWatch

open Text

inductive HandleKind where
  | thread
  | function
deriving DecidableEq, Repr

def HandleKind.typeName : HandleKind → Text
  | .thread => "ThreadId".toList
  | .function => "FunctionId".toList

/-- An opaque 64-bit name for one thing of kind `k`. -/
structure Handle (k : HandleKind) where
  value : UInt64
deriving DecidableEq, Repr

/-- The name of a managed thread. The runtime may use it again once the thread
    is gone. -/
abbrev ThreadId := Handle .thread

abbrev FunctionId := Handle .function

namespace Handle

variable {k : HandleKind}

def isNull (h : Handle k) : Bool := h.value == 0

/-- The written form: `0x` and sixteen lowercase hexadecimal digits. -/
def text (h : Handle k) : Text := "0x".toList ++ fixedHex 16 h.value.toNat

/-- The written form inside the name of its type. -/
def tagged (h : Handle k) : Text := k.typeName ++ ['('] ++ h.text ++ [')']

/-- A handle is an atom in both layouts. -/
def shape (h : Handle k) : Shape := .atom h.tagged

theorem eq_of_value {a b : Handle k} (h : a.value = b.value) : a = b := by
  cases a
  cases b
  simpa using h

/-- Behind the lead of two characters stand the digits. -/
theorem drop_text (h : Handle k) : h.text.drop 2 = fixedHex 16 h.value.toNat := by
  have hlead : "0x".toList.length = 2 := rfl
  exact List.drop_left' hlead

/-- The digits of a handle are read as its value. -/
theorem readHexFrom?_digits (h : Handle k) :
    readHexFrom? 0 (fixedHex 16 h.value.toNat) = some h.value.toNat := by
  have hlt : h.value.toNat < Nat.pow 16 16 := h.value.toNat_lt
  rw [readHexFrom?_fixedHex, Nat.mod_eq_of_lt hlt]

/-- **The written form determines the handle.** -/
theorem text_injective {a b : Handle k} (h : a.text = b.text) : a = b := by
  have digits : fixedHex 16 a.value.toNat = fixedHex 16 b.value.toNat :=
    List.append_cancel_left h
  have value := congrArg (readHexFrom? 0) digits
  rw [readHexFrom?_digits, readHexFrom?_digits] at value
  exact eq_of_value (UInt64.toNat_inj.mp (Option.some.inj value))

end Handle

end FaultWatch

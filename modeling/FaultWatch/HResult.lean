/-
  FaultWatch/HResult.lean
  =======================
  **Status codes of the runtime.**

  The runtime is answered with signed 32-bit codes. A code that is not negative
  is a success, and there is more than one success: `S_FALSE` says "done, and the
  answer is no" or "done, with something to report".
-/

namespace FaultWatch

structure HResult where
  code : Int32
deriving DecidableEq, Repr

namespace HResult

def ok : HResult := ⟨0⟩

def okFalse : HResult := ⟨1⟩

/-- A failure nobody planned for, `0x8000FFFF` as a signed word. -/
def unexpected : HResult := ⟨-2147418113⟩

/-- An argument is invalid, `0x80070057` as a signed word. -/
def invalidArg : HResult := ⟨-2147024809⟩

/-- A failure without details, `0x80004005` as a signed word. -/
def fail : HResult := ⟨-2147467259⟩

def succeeded (r : HResult) : Bool := 0 ≤ r.code

def failed (r : HResult) : Bool := r.code < 0

end HResult

end FaultWatch

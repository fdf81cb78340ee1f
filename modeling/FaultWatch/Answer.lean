/-
  FaultWatch/Answer.lean
  ======================
  **What an operation answers.**

  Every operation that can stand in a session has its own result type; a session
  needs one type for all of them.
-/
import FaultWatch.Record.Basic

namespace FaultWatch

inductive Answer where
  /-- It is done, and there is nothing to tell. -/
  | done
  | flag (b : Bool)
  | count (n : Nat)
  | status (s : HResult)
  | info (i : Info)
  /-- What came of a notification: only a query brings something back. -/
  | delivered (i : Option Info)
  | threads (ts : List ThreadId)
  | text (t : Text)
deriving DecidableEq, Repr

end FaultWatch

/-
  FaultWatch/Record/Access.lean
  =============================
  **Everything that can be done with a record.**

  Whoever holds a record can write to it, read it, describe it, or die while
  holding its lock. None of this can fail, whether the lock is poisoned or not.
-/
import FaultWatch.Answer

namespace FaultWatch

inductive Access where
  | write (w : Write)
  | snapshot
  | flag
  /-- Write the record out, its lock included. -/
  | describe
  /-- Die while holding the lock, having changed nothing. -/
  | poison
deriving DecidableEq, Repr

namespace Access

def effect (r : Record) : Access → Record
  | write w => r.write w
  | poison => r.poison
  | snapshot | flag | describe => r

def answer (r : Record) : Access → Answer
  | write _ => .done
  | snapshot => .info r.info
  | flag => .flag r.pending
  | describe => .text r.shape.inline
  | poison => .flag true

end Access

/-- The answers to the accesses, in order, each with the record after it. -/
def Record.history (r : Record) : List Access → List (Answer × Record)
  | [] => []
  | a :: rest =>
    let next := a.effect r
    (a.answer r, next) :: Record.history next rest

end FaultWatch

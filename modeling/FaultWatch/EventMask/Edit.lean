/-
  FaultWatch/EventMask/Edit.lean
  ==============================
  **Changes to a mask, as data.**

  An agent builds its mask in steps. Each step is a value, so a whole
  configuration can be replayed, once with every word truncated and once with
  every word retained, and the two runs compared.
-/
import FaultWatch.EventMask.Basic

namespace FaultWatch.EventMask

/-- One change to a mask; words are read the way the run reads them. -/
inductive Edit where
  | advertise
  | reset
  | fill
  | complement
  | insert (w : BitVec 32)
  | remove (w : BitVec 32)
  | toggle (w : BitVec 32)
  /-- Keep only what the word holds. -/
  | retainOnly (w : BitVec 32)
  | set (w : BitVec 32) (on : Bool)
deriving DecidableEq, Repr

def Edit.apply (reading : WordReading) (m : EventMask) : Edit → EventMask
  | .advertise => m.advertise
  | .reset => empty
  | .fill => all
  | .complement => m.complement
  | .insert w => m.union (ofWord reading w)
  | .remove w => m.sdiff (ofWord reading w)
  | .toggle w => m.symmDiff (ofWord reading w)
  | .retainOnly w => m.inter (ofWord reading w)
  | .set w on => if on then m.union (ofWord reading w) else m.sdiff (ofWord reading w)

/-- The masks after each of the changes, in order. -/
def history (reading : WordReading) (m : EventMask) : List Edit → List EventMask
  | [] => []
  | e :: rest =>
    let next := e.apply reading m
    next :: history reading next rest

end FaultWatch.EventMask

/-
  FaultWatch/EventMask/Basic.lean
  ===============================
  **Sets of events as 32-bit words.**

  An event mask is the word in which an agent tells the runtime what it wants to
  hear about. A mask may hold bits that belong to no flag, its *residue*: the
  union, intersection and difference of masks keep them, since a later runtime
  may know them; the complement drops them, since nobody asked for them.

  A word becomes a mask in one of two readings. Read *truncated* it loses its
  residue; read *retained* it is kept whole.
-/
import FaultWatch.EventMask.Flag

namespace FaultWatch

/-- A set of events: the bits of a word. -/
structure EventMask where
  bits : BitVec 32
deriving DecidableEq, Repr

/-- How a word of the runtime becomes a mask. -/
inductive WordReading where
  | truncated
  | retained
deriving DecidableEq, Repr

namespace EventFlag

/-- The word with only the flag's bit set. -/
def bits (f : EventFlag) : BitVec 32 := BitVec.twoPow 32 f.position

def mask (f : EventFlag) : EventMask := ⟨f.bits⟩

end EventFlag

namespace EventMask

/-! ### Masks made from flags and words -/

def empty : EventMask := ⟨0⟩

/-- The bits that belong to some flag. -/
def knownBits : BitVec 32 := EventFlag.all.foldl (fun acc f => acc ||| f.bits) 0

def all : EventMask := ⟨knownBits⟩

def ofWord (reading : WordReading) (w : BitVec 32) : EventMask :=
  match reading with
  | .truncated => ⟨w &&& knownBits⟩
  | .retained => ⟨w⟩

/-- The word as a mask, if every one of its bits belongs to a flag. -/
def ofWord? (w : BitVec 32) : Option EventMask :=
  if w &&& knownBits = w then some ⟨w⟩ else none

/-! ### Set operations -/

def union (a b : EventMask) : EventMask := ⟨a.bits ||| b.bits⟩

def inter (a b : EventMask) : EventMask := ⟨a.bits &&& b.bits⟩

def symmDiff (a b : EventMask) : EventMask := ⟨a.bits ^^^ b.bits⟩

/-- The bits of `a` that are not in `b`. -/
def sdiff (a b : EventMask) : EventMask := ⟨a.bits &&& ~~~b.bits⟩

/-- The known events that are not in the mask. -/
def complement (m : EventMask) : EventMask := ⟨~~~m.bits &&& knownBits⟩

/-! ### Questions -/

def isEmpty (m : EventMask) : Bool := m.bits = 0

/-- Does the mask hold every event that has a flag? -/
def isAll (m : EventMask) : Bool := knownBits &&& m.bits = knownBits

/-- Does `a` hold every bit of `b`? -/
def contains (a b : EventMask) : Bool := a.bits &&& b.bits = b.bits

def intersects (a b : EventMask) : Bool := a.bits &&& b.bits ≠ 0

def has (m : EventMask) (f : EventFlag) : Bool := m.bits.getLsbD f.position

/-- The flags in the mask, by ascending position. -/
def flags (m : EventMask) : List EventFlag := EventFlag.all.filter m.has

/-- The bits that belong to no flag. -/
def residue (m : EventMask) : BitVec 32 := m.bits &&& ~~~knownBits

/-! ### What this library needs -/

/-- Thread lifecycle and exception events: without them no record can be kept. -/
def required : EventMask := EventFlag.threads.mask.union EventFlag.exceptions.mask

/-- Add the required events to what an agent asks for. -/
def advertise (m : EventMask) : EventMask := m.union required

/-- Add the required events to a word that was never read as a mask. -/
def advertiseWord (w : BitVec 32) : BitVec 32 := w ||| required.bits

end EventMask

end FaultWatch

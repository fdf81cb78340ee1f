/-
  FaultWatch/Registry/Room.lean
  =============================
  **How much room a table can have.**

  A table has slots for entries, in a number that is a power of two. One slot in
  eight stays empty, so that every search comes to an end. All of a table is one
  block of memory: sixteen bytes for each slot, a thread and the reference to its
  record, then one byte for each slot that tells whether it is in use, and sixteen
  more of these so that they can be read in groups.

  A block has to fit into half of the address space of 64 bits, with up to fifteen
  bytes to spare for its alignment. Whether there is so much memory is another
  matter; for a table that does not even fit, none is asked for.
-/
import FaultWatch.Config

namespace FaultWatch

/-- The least power of two that is not below the number. -/
def ceilPowTwo (n : Nat) : Nat := if n ≤ 1 then 1 else 1 <<< ((n - 1).log2 + 1)

/-- The slots of a table with room for so many entries. -/
def slotsFor (capacity : Nat) : Nat :=
  if capacity < 4 then 4 else if capacity < 8 then 8 else ceilPowTwo (capacity * 8 / 7)

/-- The bytes of a table with so many slots. -/
def tableBytes (slots : Nat) : Nat := 16 * slots + slots + 16

/-- The bytes of the largest block of memory that a table can be. -/
def largestBlock : Nat := (1 <<< 63) - 16

/-- There can be a table with the room asked for. If no room is asked for, there is
    no table to begin with. -/
def Config.Fits (c : Config) : Prop :=
  c.capacity = 0 ∨ tableBytes (slotsFor c.capacity) ≤ largestBlock

instance (c : Config) : Decidable c.Fits := inferInstanceAs (Decidable (_ ∨ _))

end FaultWatch

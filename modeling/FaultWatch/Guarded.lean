/-
  FaultWatch/Guarded.lean
  =======================
  **Values behind a lock that remembers a death.**

  If the holder of a lock dies while holding it, nobody knows whether the value
  behind the lock is still whole, so the lock is *poisoned* from then on. What
  to make of that is left to those who use the value: `Guarded.lock` refuses a
  poisoned lock, while `Guarded.recover` goes on with what it finds behind it.
-/
import FaultWatch.Failure

namespace FaultWatch

/-- A value behind a lock, and whether a holder of the lock has died. -/
structure Guarded (α : Type) where
  value : α
  poisoned : Bool := false
deriving DecidableEq, Repr

namespace Guarded

variable {α : Type}

def lock (g : Guarded α) : Except Failure α :=
  if g.poisoned then .error .lockPoisoned else .ok g.value

/-- The value, also if the lock is refused. -/
def recover (g : Guarded α) : α :=
  match g.lock with
  | .ok a => a
  | .error _ => g.value

def map (f : α → α) (g : Guarded α) : Guarded α := { g with value := f g.value }

/-- The holder of the lock dies without having changed the value. -/
def poison (g : Guarded α) : Guarded α := { g with poisoned := true }

/-- The lock as a value, around the shape of what it guards. -/
def shape (g : Guarded α) (inner : α → Shape) : Shape :=
  .someFields "Mutex" [("data", inner g.value), ("poisoned", .ofBool g.poisoned)]

@[simp] theorem value_map (f : α → α) (g : Guarded α) : (g.map f).value = f g.value := rfl

@[simp] theorem poisoned_map (f : α → α) (g : Guarded α) : (g.map f).poisoned = g.poisoned := rfl

@[simp] theorem value_poison (g : Guarded α) : g.poison.value = g.value := rfl

@[simp] theorem poisoned_poison (g : Guarded α) : g.poison.poisoned = true := rfl

/-- **Whoever recovers always finds the value.** -/
@[simp] theorem recover_eq_value (g : Guarded α) : g.recover = g.value := by
  cases h : g.poisoned <;> simp [recover, lock, h]

theorem lock_eq_ok_iff {g : Guarded α} {a : α} :
    g.lock = .ok a ↔ g.poisoned = false ∧ g.value = a := by
  cases h : g.poisoned <;> simp [lock, h]

theorem lock_eq_error_iff {g : Guarded α} {f : Failure} :
    g.lock = .error f ↔ g.poisoned = true ∧ f = .lockPoisoned := by
  cases h : g.poisoned <;> simp [lock, h, eq_comm]

end Guarded

end FaultWatch

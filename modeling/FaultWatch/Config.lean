/-
  FaultWatch/Config.lean
  ======================
  **How a registry is set up.**

  Two things are chosen when a registry is made and never afterwards: for how
  many threads room is reserved, and whether the journal gets a line for every
  thread that comes or goes. Neither changes what the registry answers about its
  threads.
-/
import FaultWatch.Text.Shape

namespace FaultWatch

/-- The choices made when a registry is set up. -/
structure Config where
  /-- For how many threads room is reserved. -/
  capacity : Nat := 64
  /-- Does the journal tell of threads that come and go? -/
  logLifecycle : Bool := true
deriving DecidableEq, Repr

inductive Setting where
  | capacity (n : Nat)
  | logLifecycle (on : Bool)
deriving DecidableEq, Repr

namespace Config

/-- The usual configuration without lifecycle lines, for hosts with many short
    threads. -/
def quiet : Config := { logLifecycle := false }

def set (c : Config) : Setting → Config
  | .capacity n => { c with capacity := n }
  | .logLifecycle on => { c with logLifecycle := on }

def setAll (c : Config) (settings : List Setting) : Config := settings.foldl set c

def history (c : Config) : List Setting → List Config
  | [] => [c]
  | s :: rest => c :: history (c.set s) rest

def shape (c : Config) : Shape :=
  .fields "RegistryConfig"
    [("initial_capacity", .ofNat c.capacity), ("log_lifecycle", .ofBool c.logLifecycle)]

end Config

end FaultWatch

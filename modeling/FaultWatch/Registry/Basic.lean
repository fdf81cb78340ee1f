/-
  FaultWatch/Registry/Basic.lean
  ==============================
  **The registry of live threads.**

  The registry holds one record for every thread that has been created and not
  yet destroyed. Its table says which record is whose; the records themselves are
  in the store. The table sits behind a lock, and once that lock is poisoned every
  use of the table is refused: unlike a record, a table can be left half changed.

  An operation answers with a `Reply`: its result, the registry after it and the
  entries it adds to the journal. Operations that only look have no reply but a
  result, since nothing else can come of them.
-/
import FaultWatch.Journal
import FaultWatch.Record.Access
import FaultWatch.Registry.Room
import FaultWatch.Registry.Store

namespace FaultWatch

/-! ### Registries -/

/-- Which record belongs to which registered thread. -/
abbrev ThreadTable := Std.ExtTreeMap ThreadId RecordRef

/-- The records of the live threads, and all records ever made. -/
structure Registry where
  config : Config
  store : Store
  table : Guarded ThreadTable

inductive SetupFault where
  /-- A table with room for so many threads would be larger than a block of memory
      can be. -/
  | capacityOverflow
deriving DecidableEq, Repr

def SetupFault.message : SetupFault → Text
  | .capacityOverflow => "Hash table capacity overflow".toList

namespace Registry

def empty (c : Config) : Registry := ⟨c, .empty, ⟨∅, false⟩⟩

/-- Set up a registry, if there can be a table with the room asked for. -/
def ofConfig (c : Config) : Except SetupFault Registry :=
  if c.Fits then .ok (empty c) else .error .capacityOverflow

theorem ofConfig_eq_ok_iff {c : Config} {r : Registry} :
    ofConfig c = .ok r ↔ c.Fits ∧ empty c = r := by
  by_cases h : c.Fits <;> simp [ofConfig, h]

theorem ofConfig_eq_error_iff {c : Config} {f : SetupFault} :
    ofConfig c = .error f ↔ ¬ c.Fits := by
  by_cases h : c.Fits <;> simp [ofConfig, h]

/-! ### Replies -/

structure Reply (α : Type) where
  result : Except Failure α
  registry : Registry
  /-- The entries the operation adds to the journal, in order. -/
  log : List Entry := []

def Reply.map {α β : Type} (f : α → β) (reply : Reply α) : Reply β :=
  ⟨reply.result.map f, reply.registry, reply.log⟩

def Reply.look {α : Type} (r : Registry) (result : Except Failure α) : Reply α := ⟨result, r, []⟩

/-! ### Looking a thread up -/

/-- The reference to the record of a registered thread. -/
def lookup (r : Registry) (t : ThreadId) : Except Failure RecordRef :=
  match r.table.lock with
  | .error f => .error f
  | .ok table =>
    match table[t]? with
    | some ref => .ok ref
    | none => .error (.unknownThread t)

def contains (r : Registry) (t : ThreadId) : Except Failure Bool :=
  r.table.lock.map fun table => table.contains t

def size (r : Registry) : Except Failure Nat := r.table.lock.map fun table => table.size

def isEmpty (r : Registry) : Except Failure Bool := r.table.lock.map fun table => table.isEmpty

/-- The registered threads and their records, by ascending thread. -/
def entries (r : Registry) : Except Failure (List (ThreadId × RecordRef)) :=
  r.table.lock.map fun table => table.toList

/-! ### Records behind references -/

def infoAt (r : Registry) (ref : RecordRef) : Info := (r.store.get ref).info

/-- Use the record at a reference, registered or not. The table has no part in
    this. -/
def accessAt (r : Registry) (ref : RecordRef) (a : Access) : Registry :=
  { r with store := r.store.modify ref (Access.effect · a) }

def answerAt (r : Registry) (ref : RecordRef) (a : Access) : Answer := a.answer (r.store.get ref)

end Registry

end FaultWatch

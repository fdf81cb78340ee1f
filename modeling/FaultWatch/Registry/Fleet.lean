/-
  FaultWatch/Registry/Fleet.lean
  ==============================
  **Questions about all threads at once.**

  A question about the fleet goes through the table's entries one by one. In what
  order it meets them is no matter: "is anything in flight" does not depend on
  the order, and lists of threads are sorted before they are handed out. So each
  question is first put to a list of entries in any order, and then to the
  registry, which goes by ascending thread. Only the written form of a registry
  shows the order of its entries (`Registry.shapeOf`).

  The runtime's convention for the whole fleet is the opposite of the one for a
  single thread: `S_OK` if an exception is in flight somewhere, `S_FALSE` if not.
-/
import FaultWatch.Registry.Basic

namespace FaultWatch

/-! ### Questions to a list of entries -/

namespace Store

variable (s : Store) (entries : List (ThreadId × RecordRef))

/-- Is an exception in flight by the record at the reference? -/
def pendingAt (ref : RecordRef) : Bool := (s.get ref).pending

/-- Is an exception in flight on some thread? The first one that is found ends
    the search. -/
def anyPending : Bool := entries.any fun (_, ref) => s.pendingAt ref

/-- The threads with an exception in flight, in ascending order. -/
def pendingThreads : List ThreadId :=
  Handle.sort ((entries.filter fun (_, ref) => s.pendingAt ref).map (·.1))

end Store

/-- The threads that the entries are about, in ascending order. -/
def threadsOf (entries : List (ThreadId × RecordRef)) : List ThreadId :=
  Handle.sort (entries.map (·.1))

/-- The runtime's convention for the whole fleet. -/
def fleetStatus (anyPending : Bool) : HResult := if anyPending then .ok else .okFalse

/-! ### Questions to the registry -/

namespace Registry

variable (r : Registry)

def anyPending : Except Failure Bool := r.entries.map r.store.anyPending

def anyPendingStatus : Except Failure HResult := r.anyPending.map fleetStatus

def pendingThreads : Except Failure (List ThreadId) := r.entries.map r.store.pendingThreads

def threads : Except Failure (List ThreadId) := r.entries.map threadsOf

/-- What is known of each registered thread, by ascending thread. -/
def overview : Except Failure (List (ThreadId × Info)) :=
  r.entries.map fun entries => entries.map fun (t, ref) => (t, r.infoAt ref)

/-- The registry with the given entries, which its table may meet in any order. -/
def shapeOf (entries : List (ThreadId × RecordRef)) : Shape :=
  .fields "ThreadRegistry"
    [("records", r.table.shape fun _ =>
        .table (entries.map fun (t, ref) => (t.tagged, (r.store.get ref).shape))),
      ("config", r.config.shape)]

/-- The registry, its entries by ascending thread. -/
def shape : Shape := r.shapeOf r.table.value.toList

end Registry

end FaultWatch

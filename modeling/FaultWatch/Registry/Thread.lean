/-
  FaultWatch/Registry/Thread.lean
  ===============================
  **Operations on one thread.**

  Creating a thread gives it a new record, also if it still had one; destroying
  it drops its record, and destroying a thread that is not there is no failure.
  Both tell the journal what they found, if the configuration wants it told.

  Every other operation on a thread has two halves, because the two locks are
  never held together: first the table is asked for the reference
  (`Registry.lookup`), then the record behind the reference is used
  (`Registry.accessAt`, `Registry.infoAt`). Only the first half can fail, and
  the journal is warned when it does.
-/
import FaultWatch.Registry.Basic

namespace FaultWatch

/-- The entries about threads that come and go, if they are wanted. -/
def Config.lifecycle (c : Config) (entries : List Entry) : List Entry :=
  if c.logLifecycle then entries else []

namespace Registry

/-! ### Coming and going -/

def create (r : Registry) (t : ThreadId) : Reply Unit :=
  match r.table.lock with
  | .error f => ⟨.error f, r, []⟩
  | .ok table =>
    { result := .ok ()
      registry :=
        { r with
          store := r.store.insert t
          table := r.table.map fun table => table.insert t (r.store.next t) }
      log := r.config.lifecycle
        (.created t :: if table.contains t then [.recordReset t] else []) }

def destroy (r : Registry) (t : ThreadId) : Reply Unit :=
  match r.table.lock with
  | .error f => ⟨.error f, r, []⟩
  | .ok table =>
    { result := .ok ()
      registry := { r with table := r.table.map fun table => table.erase t }
      log := r.config.lifecycle
        (.destroyed t :: if table.contains t then [] else [.notRegistered t]) }

/-- Drop the records of all threads. This is told whatever the configuration
    says. -/
def release (r : Registry) : Reply Unit :=
  match r.table.lock with
  | .error f => ⟨.error f, r, []⟩
  | .ok table =>
    { result := .ok ()
      registry := { r with table := r.table.map fun _ => ∅ }
      log := [.released table.size] }

/-! ### Using the record of a thread -/

/-- Look a thread up and go on with its record, or warn that this failed. -/
def withRecord {α : Type} (r : Registry) (t : ThreadId) (use : RecordRef → α × Registry) :
    Reply α :=
  match r.lookup t with
  | .ok ref => ⟨.ok (use ref).1, (use ref).2, []⟩
  | .error f => ⟨.error f, r, [.failed f]⟩

def write (r : Registry) (t : ThreadId) (w : Write) : Reply Unit :=
  r.withRecord t fun ref => ((), r.accessAt ref (.write w))

def query (r : Registry) (t : ThreadId) : Reply Info :=
  r.withRecord t fun ref => (r.infoAt ref, r)

/-- The holder of the table's lock dies. -/
def poison (r : Registry) : Registry := { r with table := r.table.poison }

/-! ### Notifications -/

/-- Note that a notification came in and do what it asks for. Only a query brings
    something back. -/
def dispatch (r : Registry) (n : Notification) : Reply (Option Info) :=
  let reply : Reply (Option Info) :=
    match n with
    | .threadCreated t => (r.create t).map fun _ => none
    | .threadDestroyed t => (r.destroy t).map fun _ => none
    | .exceptionCleared t => (r.write t .clear).map fun _ => none
    | .exceptionThrown t => (r.write t .raise).map fun _ => none
    | .exceptionCatcherFound t f => (r.write t (.setCatcher f)).map fun _ => none
    | .exceptionQuery t => (r.query t).map some
  { reply with log := .received n.kind n.thread :: reply.log }

end Registry

end FaultWatch

/-
  FaultWatch/Session/Call.lean
  ============================
  **Calls of the registry, as data.**

  A call is one use of the registry's table. As data, calls can be listed,
  replayed, left out or put in, and the runs compared.

  Every call that a notification asks for can be made in two ways: directly, or
  by dispatching the notification (`Notification.call`).
-/
import FaultWatch.Registry.Fleet
import FaultWatch.Registry.Thread

namespace FaultWatch

inductive Call where
  | create (thread : ThreadId)
  | destroy (thread : ThreadId)
  | write (thread : ThreadId) (w : Write)
  | query (thread : ThreadId)
  | release
  | contains (thread : ThreadId)
  | size
  | isEmpty
  | threads
  | pendingThreads
  | anyPending
  | anyPendingStatus
  | dispatch (n : Notification)
deriving DecidableEq, Repr

namespace Call

open Registry

def run (r : Registry) : Call → Reply Answer
  | create t => (r.create t).map fun _ => .done
  | destroy t => (r.destroy t).map fun _ => .done
  | write t w => (r.write t w).map fun _ => .done
  | query t => (r.query t).map .info
  | release => r.release.map fun _ => .done
  | contains t => .look r ((r.contains t).map .flag)
  | size => .look r (r.size.map .count)
  | isEmpty => .look r (r.isEmpty.map .flag)
  | threads => .look r (r.threads.map .threads)
  | pendingThreads => .look r (r.pendingThreads.map .threads)
  | anyPending => .look r (r.anyPending.map .flag)
  | anyPendingStatus => .look r (r.anyPendingStatus.map .status)
  | dispatch n => (r.dispatch n).map .delivered

/-- The thread that the caller names. A notification was made before it came
    here, so the handles in it are not the caller's. -/
def thread? : Call → Option ThreadId
  | create t | destroy t | write t _ | query t | contains t => some t
  | release | size | isEmpty | threads | pendingThreads | anyPending | anyPendingStatus
  | dispatch _ => none

def function? : Call → Option FunctionId
  | write _ (.setCatcher f) => some f
  | _ => none

end Call

/-- The direct call for what the notification asks. -/
def Notification.call : Notification → Call
  | threadCreated t => .create t
  | threadDestroyed t => .destroy t
  | exceptionCleared t => .write t .clear
  | exceptionThrown t => .write t .raise
  | exceptionCatcherFound t f => .write t (.setCatcher f)
  | exceptionQuery t => .query t

end FaultWatch

/-
  FaultWatch/Notification.lean
  ============================
  **What the runtime reports about a thread.**

  A notification says that something happened on one thread, or asks about it.
  Its kind alone decides its name; the thread it speaks of is always there, and
  a catcher comes with the function that will catch.
-/
import FaultWatch.Handle.Basic

namespace FaultWatch

inductive NotificationKind where
  | threadCreated
  | threadDestroyed
  | exceptionCleared
  | exceptionThrown
  | exceptionCatcherFound
  | exceptionQuery
deriving DecidableEq, Repr

/-- The name of the kind: its words in lowercase, joined by hyphens. -/
def NotificationKind.name : NotificationKind → Text
  | .threadCreated => "thread-created".toList
  | .threadDestroyed => "thread-destroyed".toList
  | .exceptionCleared => "exception-cleared".toList
  | .exceptionThrown => "exception-thrown".toList
  | .exceptionCatcherFound => "exception-catcher-found".toList
  | .exceptionQuery => "exception-query".toList

inductive Notification where
  | threadCreated (thread : ThreadId)
  | threadDestroyed (thread : ThreadId)
  | exceptionCleared (thread : ThreadId)
  | exceptionThrown (thread : ThreadId)
  /-- The function that will catch the exception is known. -/
  | exceptionCatcherFound (thread : ThreadId) (catcher : FunctionId)
  | exceptionQuery (thread : ThreadId)
deriving DecidableEq, Repr

namespace Notification

def kind : Notification → NotificationKind
  | threadCreated _ => .threadCreated
  | threadDestroyed _ => .threadDestroyed
  | exceptionCleared _ => .exceptionCleared
  | exceptionThrown _ => .exceptionThrown
  | exceptionCatcherFound _ _ => .exceptionCatcherFound
  | exceptionQuery _ => .exceptionQuery

def thread : Notification → ThreadId
  | threadCreated t | threadDestroyed t | exceptionCleared t | exceptionThrown t
  | exceptionCatcherFound t _ | exceptionQuery t => t

def name (n : Notification) : Text := n.kind.name

def shape : Notification → Shape
  | threadCreated t => .tuple "ThreadCreated" [t.shape]
  | threadDestroyed t => .tuple "ThreadDestroyed" [t.shape]
  | exceptionCleared t => .tuple "ExceptionCleared" [t.shape]
  | exceptionThrown t => .tuple "ExceptionThrown" [t.shape]
  | exceptionCatcherFound t f => .tuple "ExceptionCatcherFound" [t.shape, f.shape]
  | exceptionQuery t => .tuple "ExceptionQuery" [t.shape]

end Notification

end FaultWatch

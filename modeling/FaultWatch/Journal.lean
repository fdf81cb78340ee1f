/-
  FaultWatch/Journal.lean
  =======================
  **The journal.**

  Operations tell what they did as entries. An entry is a fact, not a sentence:
  its level and its text are functions of it, so a journal can be reasoned about
  without reading text.

  No two kinds of entry share a text: they differ in their first words or, where
  these agree, in what stands behind the handle. Handles have a fixed width, so
  two entries of one kind have the same text only if they state the same fact.
-/
import FaultWatch.Failure
import FaultWatch.Notification

namespace FaultWatch

open Text

inductive Level where
  | trace
  | debug
  | warn
deriving DecidableEq, Repr

def Level.name : Level → Text
  | .trace => "trace".toList
  | .debug => "debug".toList
  | .warn => "warn".toList

inductive Entry where
  | received (kind : NotificationKind) (thread : ThreadId)
  | created (thread : ThreadId)
  /-- The thread that was created had been registered before. -/
  | recordReset (thread : ThreadId)
  | destroyed (thread : ThreadId)
  /-- The thread that was destroyed had not been registered. -/
  | notRegistered (thread : ThreadId)
  /-- So many records were let go at once. -/
  | released (count : Nat)
  | failed (failure : Failure)
deriving DecidableEq, Repr

namespace Entry

def level : Entry → Level
  | received _ _ => .trace
  | created _ | recordReset _ | destroyed _ | notRegistered _ | released _ => .debug
  | failed _ => .warn

def text : Entry → Text
  | received kind thread => kind.name ++ ": ".toList ++ thread.text
  | created thread => "Thread Created: ".toList ++ thread.text
  | recordReset thread => "Thread ".toList ++ thread.text ++ " was still registered, record reset".toList
  | destroyed thread => "Thread Destroyed: ".toList ++ thread.text
  | notRegistered thread => "Thread ".toList ++ thread.text ++ " was not registered".toList
  | released count => "Released ".toList ++ ofNat 10 count ++ " thread records".toList
  | failed failure => failure.message

/-- The entry as it stands in the journal. -/
def line (e : Entry) : Level × Text := (e.level, e.text)

end Entry

end FaultWatch

/-
  FaultWatch/Failure.lean
  =======================
  **What can go wrong, and what is said about it.**

  There are three causes of failure: an operation names a thread that is not
  registered, a caller hands in an invalid argument, or a lock is refused because
  its last holder died. Each cause has one text for people and one status code
  for the runtime.

  The only arguments that are refused are null handles, and only where a raw
  word is turned into a handle with `Handle.ofRaw`.
-/
import FaultWatch.HResult
import FaultWatch.Handle.Basic
import FaultWatch.Text.Quoted

namespace FaultWatch

open Text

inductive Failure where
  | unknownThread (thread : ThreadId)
  /-- An argument breaks its contract, for the reason given. -/
  | invalidArgument (reason : Text)
  /-- The holder of a lock died with it. -/
  | lockPoisoned
deriving DecidableEq, Repr

namespace Failure

def message : Failure → Text
  | unknownThread thread => "Unknown thread - ".toList ++ thread.text
  | invalidArgument reason => "Invalid argument - ".toList ++ reason
  | lockPoisoned => "Failed to lock target".toList

def status : Failure → HResult
  | unknownThread _ => .unexpected
  | invalidArgument _ => .invalidArg
  | lockPoisoned => .fail

def shape : Failure → Shape
  | unknownThread thread => .tuple "UnknownThread" [thread.shape]
  | invalidArgument reason => .tuple "InvalidArgument" [.atom (quoted reason)]
  | lockPoisoned => .atom "LockError".toList

end Failure

/-! ### Null handles -/

def HandleKind.nullReason : HandleKind → Text
  | .thread => "null ThreadID".toList
  | .function => "null FunctionID".toList

/-- Why the handle would be refused, had it come as a raw word. -/
def Handle.nullFailure? {k : HandleKind} (h : Handle k) : Option Failure :=
  if h.isNull then some (.invalidArgument k.nullReason) else none

/-- The handle for a raw word; the null word is refused. -/
def Handle.ofRaw {k : HandleKind} (word : UInt64) : Except Failure (Handle k) :=
  match (⟨word⟩ : Handle k).nullFailure? with
  | some f => .error f
  | none => .ok ⟨word⟩

end FaultWatch

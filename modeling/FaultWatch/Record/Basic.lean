/-
  FaultWatch/Record/Basic.lean
  ============================
  **The record of one thread.**

  Two facts are kept about a thread: whether an exception is in flight on it,
  and which function was named as the one that will catch it. The runtime
  reports them separately, in either order and not always both, so each write
  touches one of them and leaves the other alone; only `Write.clear` resets
  both.

  A recorded catcher is therefore not yet the catcher *of* something: it counts
  only while an exception is in flight (`Info.catcher`), and a catcher that was
  recorded early comes into force when the exception arrives.
-/
import FaultWatch.Guarded

namespace FaultWatch

/-! ### What is known of a thread -/

structure Info where
  pending : Bool
  /-- The function last named as catcher since the last clear. -/
  recorded : Option FunctionId
deriving DecidableEq, Repr

namespace Info

def clear : Info := ⟨false, none⟩

instance : Inhabited Info := ⟨clear⟩

/-- The function that will catch the exception in flight, if there is one. -/
def catcher (i : Info) : Option FunctionId := if i.pending then i.recorded else none

/-- The runtime's convention for one thread: `S_FALSE` while an exception is in
    flight. -/
def status (i : Info) : HResult := if i.pending then .okFalse else .ok

def shape (i : Info) : Shape :=
  .fields "ExceptionInfo"
    [("has_exception", .ofBool i.pending), ("catcher", .ofOption (i.recorded.map Handle.shape))]

end Info

/-! ### Writes -/

/-- One change to what is known of a thread. -/
inductive Write where
  /-- The exception was handled; its catcher is forgotten. -/
  | clear
  | raise
  | setCatcher (f : FunctionId)
deriving DecidableEq, Repr

def Write.apply (i : Info) : Write → Info
  | .clear => .clear
  | .raise => { i with pending := true }
  | .setCatcher f => { i with recorded := some f }

def Info.after (i : Info) (ws : List Write) : Info := ws.foldl Write.apply i

@[simp] theorem Info.after_nil (i : Info) : i.after [] = i := rfl

@[simp] theorem Info.after_append (i : Info) (ws vs : List Write) :
    i.after (ws ++ vs) = (i.after ws).after vs := List.foldl_append

/-! ### Records -/

/-- The facts about one thread behind a lock of their own. -/
abbrev Record := Guarded Info

namespace Record

def fresh : Record := ⟨.clear, false⟩

/-- What is known of the thread. No write can stop half way, so the facts behind
    a poisoned lock are still good, and whoever uses a record gets at them in
    this way. -/
def info (r : Record) : Info := r.recover

/-- Is an exception in flight? -/
def pending (r : Record) : Bool := r.info.pending

def write (r : Record) (w : Write) : Record := { r with value := w.apply r.info }

def shape (r : Record) : Shape :=
  .fields "ExceptionState" [("info", Guarded.shape r Info.shape)]

@[simp] theorem info_eq_value (r : Record) : r.info = r.value := r.recover_eq_value

theorem info_write (r : Record) (w : Write) : (r.write w).info = w.apply r.info := by
  simp [write]

@[simp] theorem pending_eq (r : Record) : r.pending = r.value.pending := by simp [pending]

@[simp] theorem write_eq_map (r : Record) (w : Write) : r.write w = r.map (Write.apply · w) := by
  simp [write, Guarded.map]

end Record

end FaultWatch

/-
  FaultWatch/Session/Basic.lean
  =============================
  **A caller at work.**

  A caller has the registry and some *slots*, names under which it keeps records
  it has been handed. Its work is a list of steps: calls of the registry, keeping
  a record in a slot, using a kept record, and asking whether two slots keep the
  same one. A kept record goes on working when its thread is gone and when the
  table is poisoned.

  A step that came with raw words is screened first. If the word for the thread
  or, after it, the word for the function is null, the step is refused before it
  reaches the registry, and nothing is written in the journal.
-/
import FaultWatch.Session.Call

namespace FaultWatch

/-! ### Steps -/

inductive Step where
  | call (c : Call)
  /-- Ask for the record of a thread and keep it. -/
  | keep (slot : Text) (thread : ThreadId)
  | access (slot : Text) (a : Access)
  /-- Do two slots keep the same record? -/
  | same (a b : Text)
  | describe
  /-- Die while holding the lock of the registry's table. -/
  | poison
  /-- The step came with a null handle. -/
  | refused (f : Failure)
deriving DecidableEq, Repr

namespace Step

def thread? : Step → Option ThreadId
  | call c => c.thread?
  | keep _ t => some t
  | access _ _ | same _ _ | describe | poison | refused _ => none

def function? : Step → Option FunctionId
  | call c => c.function?
  | keep _ _ | access _ _ | same _ _ | describe | poison | refused _ => none

/-- The failure of the first null handle the caller names, the thread before the
    function. -/
def nullFailure? (s : Step) : Option Failure :=
  (s.thread?.bind Handle.nullFailure?).or (s.function?.bind Handle.nullFailure?)

/-- The step as it goes on if its handles came as raw words. -/
def screen (s : Step) : Step :=
  match s.nullFailure? with
  | some f => .refused f
  | none => s

end Step

/-! ### Sessions -/

/-- The records a caller keeps, each under a name; the latest one first. -/
abbrev Slots := List (Text × RecordRef)

structure Session where
  registry : Registry
  slots : Slots := []

inductive Outcome where
  | answered (a : Answer)
  /-- It was possible, but failed. -/
  | failed (f : Failure)
  /-- A slot it names keeps nothing. -/
  | noSlot
deriving DecidableEq, Repr

def Outcome.ofResult : Except Failure Answer → Outcome
  | .ok a => .answered a
  | .error f => .failed f

structure Turn where
  outcome : Outcome
  log : List Entry
  after : Session

namespace Session

def kept? (s : Session) (slot : Text) : Option RecordRef := s.slots.lookup slot

def keep (s : Session) (slot : Text) (ref : RecordRef) : Session :=
  { s with slots := (slot, ref) :: s.slots }

def step (s : Session) : Step → Turn
  | .call c =>
    let reply := c.run s.registry
    ⟨.ofResult reply.result, reply.log, { s with registry := reply.registry }⟩
  | .keep slot t =>
    match s.registry.lookup t with
    | .ok ref => ⟨.answered (.info (s.registry.infoAt ref)), [], s.keep slot ref⟩
    | .error f => ⟨.failed f, [], s⟩
  | .access slot a =>
    match s.kept? slot with
    | some ref =>
      ⟨.answered (s.registry.answerAt ref a), [],
        { s with registry := s.registry.accessAt ref a }⟩
    | none => ⟨.noSlot, [], s⟩
  | .same a b =>
    match s.kept? a, s.kept? b with
    | some ref, some ref' => ⟨.answered (.flag (ref = ref')), [], s⟩
    | _, _ => ⟨.noSlot, [], s⟩
  | .describe => ⟨.answered (.text s.registry.shape.inline), [], s⟩
  | .poison => ⟨.answered (.flag true), [], { s with registry := s.registry.poison }⟩
  | .refused f => ⟨.failed f, [], s⟩

def turns (s : Session) : List Step → List Turn
  | [] => []
  | st :: rest =>
    let turn := s.step st
    turn :: turns turn.after rest

def run (s : Session) (steps : List Step) : Session :=
  steps.foldl (fun s st => (s.step st).after) s

@[simp] theorem turns_append (s : Session) (xs ys : List Step) :
    s.turns (xs ++ ys) = s.turns xs ++ (s.run xs).turns ys := by
  induction xs generalizing s with
  | nil => rfl
  | cons st rest ih => simp [turns, run, ih]

end Session

end FaultWatch

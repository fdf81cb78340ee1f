/-
  FaultWatch/Proofs/Session/Uses.lean
  ===================================
  **Using a record through slots.**

  Whoever keeps a record can use it, through any slot that keeps it.  A run can be
  cut in two by this: the steps that use a record (`Session.usesOf` has what they
  do), and all others (`Session.stepsOf`, `Session.turnsOf`).

  If no call can reach the record any more, it is only used through slots, and what
  these uses come to is decided by the uses alone: they answer what a record by
  itself answers to them, one after the other (`seenOf_eq_history`).
-/
import FaultWatch.Proofs.Session.Deed

namespace FaultWatch.Session

/-! ### Parts of a run -/

/-- The steps that have the property when they are taken. -/
def stepsOf (p : Session → Step → Bool) (s : Session) : List Step → List Step
  | [] => []
  | st :: rest =>
    let chosen := stepsOf p (s.step st).after rest
    if p s st then st :: chosen else chosen

/-- The turns of these steps. -/
def turnsOf (p : Session → Step → Bool) (s : Session) : List Step → List Turn
  | [] => []
  | st :: rest =>
    let chosen := turnsOf p (s.step st).after rest
    if p s st then s.step st :: chosen else chosen

/-- What the step does with the record, if it uses it. -/
def useOf? (ref : RecordRef) (s : Session) : Step → Option Access
  | .access slot a => if s.kept? slot = some ref then some a else none
  | .call _ | .keep _ _ | .same _ _ | .describe | .poison | .refused _ => none

/-- Does the step use the record? -/
def uses (ref : RecordRef) (s : Session) (st : Step) : Bool := (s.useOf? ref st).isSome

/-- All that is done with the record through slots, in order. -/
def usesOf (ref : RecordRef) (s : Session) : List Step → List Access
  | [] => []
  | st :: rest => (s.useOf? ref st).toList ++ usesOf ref (s.step st).after rest

/-- What is seen of the record through slots: the answer to each use, and the record
    after it. -/
def seenOf (ref : RecordRef) (s : Session) (steps : List Step) : List (Outcome × Record) :=
  (s.turnsOf (uses ref) steps).map fun turn =>
    (turn.outcome, turn.after.registry.store.get ref)

variable {s : Session} {ref : RecordRef} {st : Step} {a : Access}

theorem stepsOf_append (p : Session → Step → Bool) (s : Session) (xs ys : List Step) :
    s.stepsOf p (xs ++ ys) = s.stepsOf p xs ++ (s.run xs).stepsOf p ys := by
  induction xs generalizing s with
  | nil => rfl
  | cons st rest ih =>
    rw [List.cons_append, stepsOf, stepsOf, ih, run_cons]
    cases hst : p s st <;> simp

theorem useOf?_eq_some_iff :
    s.useOf? ref st = some a ↔ ∃ slot, st = .access slot a ∧ s.kept? slot = some ref := by
  cases st with
  | access slot a' =>
    by_cases hk : s.kept? slot = some ref
    · simp [useOf?, hk]
    · simp [useOf?, hk]
  | call | keep | same | describe | poison | refused => simp [useOf?]

/-! ### Records that no call can reach -/

/-- No call that can ever be made reaches the record. -/
def LeftAlone (ref : RecordRef) (s : Session) : Prop :=
  ∀ (later : List Step) (c : Call) (a : Access), c.change (s.run later).registry ≠ .access ref a

theorem LeftAlone.step (h : s.LeftAlone ref) (st : Step) : (s.step st).after.LeftAlone ref :=
  fun later => h (st :: later)

theorem LeftAlone.get_step (h : s.LeftAlone ref) (hu : s.useOf? ref st = none) :
    (s.step st).after.registry.store.get ref = s.registry.store.get ref := by
  rw [registry_step]
  apply Registry.get_apply_of_ne
  intro a hch
  cases st with
  | call c => exact h [] c a hch
  | access slot a' =>
    cases hk : s.kept? slot with
    | none => simp [change, hk] at hch
    | some ref' =>
      obtain ⟨rfl, rfl⟩ : ref' = ref ∧ a' = a := by simpa [change, hk] using hch
      simp [useOf?, hk] at hu
  | keep | same | describe | poison | refused => simp [change] at hch

theorem outcome_of_useOf? (hu : s.useOf? ref st = some a) :
    (s.step st).outcome = .answered (a.answer (s.registry.store.get ref)) := by
  obtain ⟨slot, rfl, hk⟩ := useOf?_eq_some_iff.mp hu
  simp only [step, hk, Registry.answerAt]

theorem get_step_of_useOf? (hholds : s.registry.store.Holds ref)
    (hu : s.useOf? ref st = some a) :
    (s.step st).after.registry.store.get ref = a.effect (s.registry.store.get ref) := by
  obtain ⟨slot, rfl, hk⟩ := useOf?_eq_some_iff.mp hu
  have hch : s.change (.access slot a) = .access ref a := by simp [change, hk]
  rw [registry_step, hch, Registry.get_apply_access hholds]

/-- **What is read through slots is decided by the uses.**  Each use of a record that
    no call can reach has the answer, and leaves the record, as the uses before it
    say. -/
theorem seenOf_eq_history (hholds : s.registry.store.Holds ref) (h : s.LeftAlone ref)
    (later : List Step) :
    s.seenOf ref later =
      ((s.registry.store.get ref).history (s.usesOf ref later)).map
        fun entry => (.answered entry.1, entry.2) := by
  unfold seenOf
  induction later generalizing s with
  | nil => rfl
  | cons st rest ih =>
    have hrest := ih (holds_step hholds st) (h.step st)
    cases hu : s.useOf? ref st with
    | none =>
      rw [h.get_step hu] at hrest
      simp only [turnsOf, usesOf, uses, hu]
      exact hrest
    | some a =>
      rw [get_step_of_useOf? hholds hu] at hrest
      simp only [turnsOf, usesOf, uses, hu]
      simp only [Option.isSome_some, if_true, List.map_cons, Option.toList_some,
        List.singleton_append, Record.history, outcome_of_useOf? hu,
        get_step_of_useOf? hholds hu, hrest]

theorem get_run_of_leftAlone (hholds : s.registry.store.Holds ref) (h : s.LeftAlone ref)
    (later : List Step) :
    (s.run later).registry.store.get ref =
      (s.usesOf ref later).foldl Access.effect (s.registry.store.get ref) := by
  induction later generalizing s with
  | nil => rfl
  | cons st rest ih =>
    rw [run_cons, ih (holds_step hholds st) (h.step st), usesOf, List.foldl_append]
    cases hu : s.useOf? ref st with
    | none => rw [h.get_step hu]; rfl
    | some a => rw [get_step_of_useOf? hholds hu]; rfl

end FaultWatch.Session

/-
  FaultWatch/Proofs/Session/Deed.lean
  ===================================
  **What a step of a caller can do.**

  `Session.registry_step` says which change of the registry a step makes, and
  `Session.kept?_step` which record a slot has after it.  Everything that holds of
  a whole run follows from these two by induction on the steps; the run is taken
  apart at its end (`Session.run_snoc`), because what a step does depends on what
  came before it.

  First results of this kind: in a session that a caller can be in, the table is
  sound and every kept record was given by the store (`Session.sound_run`), and the
  table is poisoned exactly if a step has poisoned it (`poisoned_run`).
-/
import FaultWatch.Proofs.Registry.Change
import FaultWatch.Session.Crew
import Mathlib.Data.List.Induction

namespace FaultWatch

/-- The call that a step makes, or the direct call for the notification that it
    dispatches. -/
def Step.call? : Step → Option Call
  | .call c => some c.direct
  | .keep _ _ | .access _ _ | .same _ _ | .describe | .poison | .refused _ => none

namespace Session

/-! ### One step -/

def change (s : Session) : Step → Change
  | .call c => c.change s.registry
  | .access slot a =>
    match s.kept? slot with
    | some ref => .access ref a
    | none => .idle
  | .poison => .poison
  | .keep _ _ | .same _ _ | .describe | .refused _ => .idle

/-- **A step does to the registry what its change says.** -/
theorem registry_step (s : Session) (st : Step) :
    (s.step st).after.registry = s.registry.apply (s.change st) := by
  cases st with
  | call c => exact Call.registry_run s.registry c
  | keep slot t => cases hl : s.registry.lookup t <;> simp only [step, hl] <;> rfl
  | access slot a => cases hk : s.kept? slot <;> simp only [step, hk, change] <;> rfl
  | same a b =>
    cases ha : s.kept? a <;> cases hb : s.kept? b <;> simp only [step, ha, hb] <;> rfl
  | describe => rfl
  | poison => rfl
  | refused f => rfl

/-- **Only calls write in the journal.** -/
theorem log_of_not_call {st : Step} (hst : ∀ c, st ≠ .call c) (s : Session) :
    (s.step st).log = [] := by
  cases st with
  | call c => exact absurd rfl (hst c)
  | keep slot t => cases hl : s.registry.lookup t <;> simp only [step, hl]
  | access slot a => cases hk : s.kept? slot <;> simp only [step, hk]
  | same a b => cases ha : s.kept? a <;> cases hb : s.kept? b <;> simp only [step, ha, hb]
  | describe | poison | refused => rfl

theorem outcome_access {s : Session} {slot : Text} {ref : RecordRef}
    (hk : s.kept? slot = some ref) (a : Access) :
    (s.step (.access slot a)).outcome = .answered (s.registry.answerAt ref a) := by
  simp only [step, hk]

theorem holds_step {s : Session} {ref : RecordRef} (h : s.registry.store.Holds ref)
    (st : Step) : (s.step st).after.registry.store.Holds ref := by
  rw [registry_step, Registry.holds_apply_iff]
  exact Or.inl h

theorem change_eq_create_iff {s : Session} {st : Step} {t : ThreadId} :
    s.change st = .create t ↔
      s.registry.table.poisoned = false ∧ st.call? = some (.create t) := by
  cases st with
  | call c =>
    simp only [change, Call.change, Step.call?, Option.some.injEq]
    cases hp : s.registry.table.poisoned <;> cases c.direct with
      | write u w => dsimp only; split <;> simp
      | _ => simp
  | access slot a => cases hk : s.kept? slot <;> simp [change, hk, Step.call?]
  | keep | same | describe | poison | refused => simp [change, Step.call?]

theorem kept?_keep (s : Session) (slot slot' : Text) (ref : RecordRef) :
    (s.keep slot ref).kept? slot' = if slot' = slot then some ref else s.kept? slot' := by
  by_cases h : slot' = slot
  · subst h
    simp [kept?, keep]
  · simp [kept?, keep, List.lookup_cons, h, beq_false_of_ne h]

/-- **Only a successful `keep` changes what a slot has**, and only its own slot. -/
theorem kept?_step (s : Session) (st : Step) (slot : Text) :
    (s.step st).after.kept? slot =
      match st with
      | .keep slot' t =>
        if slot = slot' then (s.registry.lookup t).toOption.or (s.kept? slot) else s.kept? slot
      | _ => s.kept? slot := by
  cases st with
  | call c => rfl
  | keep slot' t =>
    cases hl : s.registry.lookup t with
    | ok ref => simp [step, hl, kept?_keep, Except.toOption]
    | error f => simp [step, hl, Except.toOption]
  | access slot' a => cases hk : s.kept? slot' <;> simp only [step, hk]; rfl
  | same a b => cases ha : s.kept? a <;> cases hb : s.kept? b <;> simp only [step, ha, hb]
  | describe => rfl
  | poison => rfl
  | refused f => rfl

/-- On a usable table, the table after a step is decided by the call that the
    step makes. -/
theorem ref?_step {s : Session} (hp : s.registry.table.poisoned = false) (st : Step)
    (t : ThreadId) :
    (s.step st).after.registry.ref? t =
      match st.call? with
      | some (.create u) => if t = u then some (s.registry.store.next t) else s.registry.ref? t
      | some (.destroy u) => if t = u then none else s.registry.ref? t
      | some .release => none
      | _ => s.registry.ref? t := by
  rw [registry_step]
  cases st with
  | call c =>
    simp only [change, Step.call?, Call.change, hp]
    cases c.direct with
    | create u =>
      by_cases h : t = u
      · subst h
        simp [Registry.ref?_create]
      · simp [Registry.ref?_create, h]
    | destroy u => simp [Registry.ref?_destroy]
    | release => simp
    | write u w => dsimp only; split <;> simp
    | query | contains | size | isEmpty | threads | pendingThreads | anyPending
    | anyPendingStatus | dispatch => simp
  | access slot a => cases hk : s.kept? slot <;> simp [change, hk, Step.call?]
  | keep | same | describe | poison | refused => simp [change, Step.call?]

/-- On a poisoned table, no step changes anything but a kept record. -/
theorem change_of_poisoned {s : Session} (hp : s.registry.table.poisoned = true) (st : Step) :
    s.change st = .idle ∨ s.change st = .poison ∨
      ∃ slot a ref, st = .access slot a ∧ s.kept? slot = some ref ∧
        s.change st = .access ref a := by
  cases st with
  | call c =>
    left
    simp only [change, Call.change, hp, Registry.lookup_of_poisoned hp]
    cases c.direct <;> rfl
  | access slot a =>
    cases hk : s.kept? slot with
    | none => exact Or.inl (by simp [change, hk])
    | some ref => exact Or.inr (Or.inr ⟨slot, a, ref, rfl, hk, by simp [change, hk]⟩)
  | poison => exact Or.inr (Or.inl rfl)
  | keep | same | describe | refused => exact Or.inl rfl

/-! ### Runs -/

@[simp] theorem run_nil (s : Session) : s.run [] = s := rfl

@[simp] theorem run_cons (s : Session) (st : Step) (steps : List Step) :
    s.run (st :: steps) = (s.step st).after.run steps := rfl

theorem run_append (s : Session) (xs ys : List Step) : s.run (xs ++ ys) = (s.run xs).run ys :=
  List.foldl_append

theorem run_snoc (s : Session) (steps : List Step) (st : Step) :
    s.run (steps ++ [st]) = ((s.run steps).step st).after := by
  rw [run_append]
  rfl

theorem config_step (s : Session) (st : Step) :
    (s.step st).after.registry.config = s.registry.config := by
  rw [registry_step, Registry.config_apply]

theorem config_run (s : Session) (steps : List Step) :
    (s.run steps).registry.config = s.registry.config := by
  induction steps generalizing s with
  | nil => rfl
  | cons st rest ih => rw [run_cons, ih, config_step]

/-! ### Soundness -/

/-- The registry is sound, and every kept record was given by the store. -/
structure Sound (s : Session) : Prop where
  registry : s.registry.Sound
  kept : ∀ {slot : Text} {ref : RecordRef}, s.kept? slot = some ref → s.registry.store.Holds ref

theorem sound_session {r : Registry} (h : r.Sound) : r.session.Sound :=
  ⟨h, by intro slot ref hk; simp [Registry.session, kept?] at hk⟩

theorem Sound.step {s : Session} (h : s.Sound) (st : Step) : (s.step st).after.Sound := by
  constructor
  · rw [registry_step]
    exact h.registry.apply _
  · intro slot ref hk
    rw [kept?_step] at hk
    split at hk
    · rename_i slot' t
      -- what the step keeps is what the table had
      split at hk
      · cases hl : s.registry.lookup t with
        | ok ref' =>
          have heq : ref' = ref := by simpa [hl, Except.toOption] using hk
          subst heq
          exact holds_step (h.registry.holds (Registry.lookup_eq_ok_iff.mp hl).2) _
        | error f => exact holds_step (h.kept (by simpa [hl, Except.toOption] using hk)) _
      · exact holds_step (h.kept hk) _
    · exact holds_step (h.kept hk) _

/-- A step only uses records that the store has given. -/
theorem Sound.holds_of_change {s : Session} (h : s.Sound) {st : Step} {ref : RecordRef}
    {a : Access} (hch : s.change st = .access ref a) : s.registry.store.Holds ref := by
  cases st with
  | call c =>
    exact h.registry.holds (h.registry.registers_of_change hch)
  | access slot a' =>
    cases hk : s.kept? slot with
    | none => simp [change, hk] at hch
    | some ref' =>
      obtain ⟨rfl, -⟩ : ref' = ref ∧ a' = a := by simpa [change, hk] using hch
      exact h.kept hk
  | keep | same | describe | poison | refused => simp [change] at hch

theorem Sound.run {s : Session} (h : s.Sound) (steps : List Step) : (s.run steps).Sound := by
  induction steps generalizing s with
  | nil => exact h
  | cons st steps ih => exact ih (h.step st)

/-- **Every session that a caller can be in is sound.** -/
theorem sound_run (c : Config) (steps : List Step) :
    ((Registry.empty c).session.run steps).Sound :=
  (sound_session (Registry.sound_empty c)).run steps

end Session

/-! ### Poisoning -/

theorem Call.change_ne_poison (r : Registry) (c : Call) : c.change r ≠ .poison := by
  unfold Call.change
  split
  · split <;> simp
  · split <;> simp
  · split <;> simp
  · split <;> simp
  · simp

theorem Session.poisoned_step (s : Session) (st : Step) :
    (s.step st).after.registry.table.poisoned =
      (s.registry.table.poisoned || decide (st = .poison)) := by
  rw [registry_step, Registry.poisoned_apply]
  congr 1
  cases st with
  | call c => simp [change, Call.change_ne_poison]
  | access slot a => cases hk : s.kept? slot <;> simp [change, hk]
  | keep | same | describe | poison | refused => simp [change]

/-- **The table is poisoned exactly if a step has poisoned it.** -/
theorem poisoned_run (c : Config) (steps : List Step) :
    ((Registry.empty c).session.run steps).registry.table.poisoned =
      decide (.poison ∈ steps) := by
  induction steps using List.reverseRecOn with
  | nil => rfl
  | append_singleton steps st ih =>
    rw [Session.run_snoc, Session.poisoned_step, ih]
    simp [eq_comm]

end FaultWatch

/-
  FaultWatch/Proofs/Session/Detached.lean
  =======================================
  **Records that were dropped, and those who still keep them.**

  When a thread is created again, destroyed or released, whoever keeps its record can
  go on using it, but has no part in the registry any more (`Session.Isolated`).  This
  holds in both directions.  Two runs that differ in uses of the record only are the
  same to all others, in answers, journal and state.  And two runs with the same uses
  of the record are the same to those who keep it, whatever else is done, so registry
  operations can be left out.

  Both rest on two facts: a dropped record is never registered again
  (`not_registers_run`), so that no call can reach it (`leftAlone_of_detached`), and
  what others are told does not depend on a record that is not registered
  (`SameBut.step`).
-/
import FaultWatch.Proofs.Session.Identity
import FaultWatch.Proofs.Session.SameBut
import Mathlib.Logic.Relation

namespace FaultWatch

/-- The step asks the registry for something or does something to it, rather than
    using what is kept in slots. -/
def Step.ofRegistry : Step → Bool
  | .call _ | .keep _ _ | .describe | .poison => true
  | .access _ _ | .same _ _ | .refused _ => false

namespace Session

/-- The record is kept by someone, but no thread has it. -/
structure Detached (ref : RecordRef) (s : Session) : Prop where
  sound : s.Sound
  holds : s.registry.store.Holds ref
  dropped : ¬ s.registry.Registers ref

variable {ref : RecordRef} {s s' : Session} {st : Step}

theorem Detached.step (h : s.Detached ref) (st : Step) : (s.step st).after.Detached ref :=
  ⟨h.sound.step st, holds_step h.holds st, not_registers_run h.holds h.dropped [st]⟩

/-! ### What others see -/

/-- **All others see the run without the uses of the record.** -/
theorem turnsOf_others (hs : s.Sound) (h : s'.Detached ref) (hsame : s.SameBut ref s')
    (steps : List Step) :
    List.Forall₂ (Turn.SameBut ref) (s.turnsOf (others ref) steps)
        (s'.turns (s.stepsOf (others ref) steps)) ∧
      (s.run steps).SameBut ref (s'.run (s.stepsOf (others ref) steps)) := by
  induction steps generalizing s s' with
  | nil => exact ⟨.nil, hsame⟩
  | cons st rest ih =>
    cases hst : s.others ref st with
    | false =>
      -- the use is taken on one side only
      have huses : s.uses ref st = true := by simpa [others] using hst
      have hafter := ih (hs.step st) h ((sameBut_of_uses huses).trans hsame)
      simpa [turnsOf, stepsOf, hst] using hafter
    | true =>
      -- both sides take the step, and since no thread has the record, it is told the same
      have hst' : s'.others ref st = true := by rw [others, ← hsame.uses_eq]; exact hst
      have hturn := hsame.step h.sound h.dropped hst'
      obtain ⟨hturns, hrun⟩ := ih (hs.step st) (h.step st) hturn.after
      simp only [turnsOf, stepsOf, hst, if_true, turns, run_cons]
      exact ⟨.cons hturn hturns, hrun⟩

theorem SameBut.stepsOf_others (h : s.SameBut ref s') (hs' : s'.Sound) (steps : List Step) :
    s.stepsOf (others ref) steps = s'.stepsOf (others ref) steps := by
  induction steps generalizing s s' with
  | nil => rfl
  | cons st rest ih =>
    have hst : s.others ref st = s'.others ref st := by rw [others, others, h.uses_eq]
    simp only [stepsOf, hst, ih (h.after hs' st) (hs'.step st)]

/-- A run with one more use of the record, put in anywhere. -/
def PutsIn (ref : RecordRef) (s : Session) (xs ys : List Step) : Prop :=
  ∃ before later slot a, (s.run before).kept? slot = some ref ∧
    xs = before ++ later ∧ ys = before ++ .access slot a :: later

theorem PutsIn.stepsOf_eq {xs ys : List Step} (h : s.PutsIn ref xs ys) (hs : s.Sound) :
    s.stepsOf (others ref) xs = s.stepsOf (others ref) ys := by
  obtain ⟨before, later, slot, a, hk, rfl, rfl⟩ := h
  have huses : (s.run before).uses ref (.access slot a) = true := by simp [uses, useOf?, hk]
  have hsame := (sameBut_of_uses huses).stepsOf_others (hs.run before) later
  rw [stepsOf_append, stepsOf_append, stepsOf, others, huses]
  simpa using hsame.symm

/-- However many uses of the record are put in or left out, the steps of others stay
    as they were. -/
theorem stepsOf_others_eq_of_eqvGen {xs ys : List Step} (hs : s.Sound)
    (h : Relation.EqvGen (s.PutsIn ref) xs ys) :
    s.stepsOf (others ref) xs = s.stepsOf (others ref) ys := by
  induction h with
  | rel xs ys hput => exact hput.stepsOf_eq hs
  | refl xs => rfl
  | symm xs ys _ ih => exact ih.symm
  | trans xs ys zs _ _ ih ih' => exact ih.trans ih'

theorem log_of_uses (hu : s.uses ref st = true) : (s.step st).log = [] := by
  obtain ⟨a, ha⟩ := Option.isSome_iff_exists.mp hu
  obtain ⟨slot, rfl, -⟩ := useOf?_eq_some_iff.mp ha
  exact log_of_not_call (by simp) s

theorem log_turnsOf_others (s : Session) (steps : List Step) :
    (s.turnsOf (others ref) steps).flatMap Turn.log = (s.turns steps).flatMap Turn.log := by
  induction steps generalizing s with
  | nil => rfl
  | cons st rest ih =>
    rw [turns, List.flatMap_cons, ← ih]
    cases hu : s.uses ref st with
    | true => simp [turnsOf, others, hu, log_of_uses hu]
    | false => simp [turnsOf, others, hu]

end Session

namespace Turn

variable {ref : RecordRef} {xs ys zs : List Turn}

theorem log_eq_of_sameBut (h : List.Forall₂ (SameBut ref) xs ys) :
    xs.flatMap log = ys.flatMap log := by
  induction h with
  | nil => rfl
  | cons hturn _ ih => rw [List.flatMap_cons, List.flatMap_cons, hturn.log, ih]

theorem sameBut_of_common (hx : List.Forall₂ (SameBut ref) xs zs)
    (hy : List.Forall₂ (SameBut ref) ys zs) : List.Forall₂ (SameBut ref) xs ys := by
  induction hx generalizing ys with
  | nil =>
    cases hy
    exact .nil
  | cons hturn _ ih =>
    cases hy with
    | cons hturn' hrest =>
      exact .cons ⟨hturn.outcome.trans hturn'.outcome.symm, hturn.log.trans hturn'.log.symm,
        hturn.after.trans hturn'.after.symm⟩ (ih hrest)

end Turn

namespace Session

variable {ref : RecordRef} {s : Session} {st : Step}

/-- **Runs that differ in uses of the record only are the same to all others.** -/
theorem Detached.sameBut_of_stepsOf_eq (h : s.Detached ref) {xs ys : List Step}
    (heq : s.stepsOf (others ref) xs = s.stepsOf (others ref) ys) :
    List.Forall₂ (Turn.SameBut ref) (s.turnsOf (others ref) xs) (s.turnsOf (others ref) ys) ∧
      (s.turns xs).flatMap Turn.log = (s.turns ys).flatMap Turn.log ∧
      (s.run xs).SameBut ref (s.run ys) := by
  obtain ⟨hturns, hrun⟩ := turnsOf_others h.sound h (SameBut.refl ref s) xs
  obtain ⟨hturns', hrun'⟩ := turnsOf_others h.sound h (SameBut.refl ref s) ys
  rw [← heq] at hturns' hrun'
  have hsame := Turn.sameBut_of_common hturns hturns'
  refine ⟨hsame, ?_, hrun.trans hrun'.symm⟩
  have hlog := Turn.log_eq_of_sameBut hsame
  rwa [log_turnsOf_others, log_turnsOf_others] at hlog

/-! ### What is seen of the record -/

theorem leftAlone_of_detached (h : s.Detached ref) : s.LeftAlone ref := by
  intro later c a hch
  exact not_registers_run h.holds h.dropped later
    ((h.sound.run later).registry.registers_of_change hch)

/-- **What is seen of the record is decided by its uses.** -/
theorem Detached.seenOf_eq (h : s.Detached ref) {xs ys : List Step}
    (heq : s.usesOf ref xs = s.usesOf ref ys) :
    s.seenOf ref xs = s.seenOf ref ys ∧
      (s.run xs).registry.store.get ref = (s.run ys).registry.store.get ref := by
  have hleft := leftAlone_of_detached h
  rw [seenOf_eq_history h.holds hleft, seenOf_eq_history h.holds hleft,
    get_run_of_leftAlone h.holds hleft, get_run_of_leftAlone h.holds hleft, heq]
  exact ⟨rfl, rfl⟩

/-- The record gets into no further slot, and stays in a slot that nothing else is
    kept in. -/
theorem Detached.kept?_step_iff (h : s.Detached ref)
    (hst : ∀ slot t, s.kept? slot = some ref → st ≠ .keep slot t) (slot : Text) :
    (s.step st).after.kept? slot = some ref ↔ s.kept? slot = some ref := by
  rw [kept?_step]
  cases st with
  | keep slot' t =>
    by_cases hslot : slot = slot'
    · subst hslot
      have hother : s.kept? slot ≠ some ref := fun hk => hst slot t hk rfl
      cases hl : s.registry.lookup t with
      | error f => simp [hl, Except.toOption]
      | ok ref' =>
        have hne := h.sound.registry.ne_of_ref? h.dropped (Registry.lookup_eq_ok_iff.mp hl).2
        simp [hl, Except.toOption, hne, hother]
    · simp [hslot]
  | call | access | same | describe | poison | refused => rfl

theorem Detached.usesOf_eq_filterMap (h : s.Detached ref) {steps : List Step}
    (hsteps : ∀ slot t, s.kept? slot = some ref → .keep slot t ∉ steps) :
    s.usesOf ref steps = steps.filterMap (s.useOf? ref) := by
  induction steps generalizing s with
  | nil => rfl
  | cons st rest ih =>
    have hkept : ∀ slot, (s.step st).after.kept? slot = some ref ↔ s.kept? slot = some ref :=
      h.kept?_step_iff fun slot t hk heq => hsteps slot t hk (by simp [heq])
    -- the record stays in the same slots, so its uses can be told from where the run starts
    have huse : (s.step st).after.useOf? ref = s.useOf? ref := by
      funext st'
      cases st' with
      | access slot a => simp only [useOf?, hkept]
      | call | keep | same | describe | poison | refused => rfl
    have hrest := ih (h.step st) fun slot t hk hmem =>
      hsteps slot t ((hkept slot).mp hk) (List.mem_cons_of_mem _ hmem)
    rw [usesOf, hrest, huse, List.filterMap_cons]
    cases s.useOf? ref st <;> rfl

/-- Leaving out registry operations leaves the uses of the record as they were, as
    long as its slots are not used for anything else. -/
theorem Detached.usesOf_eq_of_sublist (h : s.Detached ref) {xs ys : List Step}
    (hslots : ∀ slot t, s.kept? slot = some ref → .keep slot t ∉ xs) (hsub : ys.Sublist xs)
    (hleft : ys.filter (fun st => !st.ofRegistry) = xs.filter fun st => !st.ofRegistry) :
    s.usesOf ref ys = s.usesOf ref xs := by
  have huses : ∀ steps : List Step, steps.filterMap (s.useOf? ref) =
      (steps.filter fun st => !st.ofRegistry).filterMap (s.useOf? ref) := by
    intro steps
    rw [List.filterMap_filter]
    congr 1
    funext st
    cases st <;> rfl
  rw [h.usesOf_eq_filterMap hslots,
    h.usesOf_eq_filterMap fun slot t hk hmem => hslots slot t hk (hsub.subset hmem),
    huses xs, huses ys, hleft]

/-! ### Isolation -/

/-- The record and the rest of the session have no part in each other. -/
structure Isolated (ref : RecordRef) (s : Session) : Prop where
  /-- The record is never registered again. -/
  dropped : ∀ later, ¬ (s.run later).registry.Registers ref
  /-- Putting uses of the record in and leaving uses of it out, any number of them and
      anywhere, does not touch the steps of others. -/
  others_insert : ∀ xs ys, Relation.EqvGen (s.PutsIn ref) xs ys →
    s.stepsOf (others ref) xs = s.stepsOf (others ref) ys
  /-- To others, runs with the same steps of others are the same, in answers, in the
      journal and in all that there is besides the record. -/
  others_same : ∀ xs ys, s.stepsOf (others ref) xs = s.stepsOf (others ref) ys →
    List.Forall₂ (Turn.SameBut ref) (s.turnsOf (others ref) xs) (s.turnsOf (others ref) ys) ∧
      (s.turns xs).flatMap Turn.log = (s.turns ys).flatMap Turn.log ∧
      (s.run xs).SameBut ref (s.run ys)
  /-- To those who keep the record, runs with the same uses of it are the same. -/
  seen_same : ∀ xs ys, s.usesOf ref xs = s.usesOf ref ys →
    s.seenOf ref xs = s.seenOf ref ys ∧
      (s.run xs).registry.store.get ref = (s.run ys).registry.store.get ref
  /-- So any registry operations can be left out, if the slots that keep the record
      are not used for anything else. -/
  seen_delete : ∀ xs ys, (∀ slot t, s.kept? slot = some ref → .keep slot t ∉ xs) →
    ys.Sublist xs →
    ys.filter (fun st => !st.ofRegistry) = xs.filter (fun st => !st.ofRegistry) →
    s.seenOf ref ys = s.seenOf ref xs ∧
      (s.run ys).registry.store.get ref = (s.run xs).registry.store.get ref

theorem Detached.isolated (h : s.Detached ref) : s.Isolated ref where
  dropped := not_registers_run h.holds h.dropped
  others_insert _ _ h' := stepsOf_others_eq_of_eqvGen h.sound h'
  others_same _ _ heq := h.sameBut_of_stepsOf_eq heq
  seen_same _ _ heq := h.seenOf_eq heq
  seen_delete _ _ hslots hsub hleft := h.seenOf_eq (h.usesOf_eq_of_sublist hslots hsub hleft)

end Session

/-- **A kept record that no thread has any more is isolated**, in whatever session
    it was kept. -/
theorem detached_isolated (c : Config) (before : List Step) (slot : Text) (ref : RecordRef)
    (hkept : ((Registry.empty c).session.run before).kept? slot = some ref)
    (hdropped : ¬ ((Registry.empty c).session.run before).registry.Registers ref) :
    ((Registry.empty c).session.run before).Isolated ref := by
  have hsound := Session.sound_run c before
  exact Session.Detached.isolated ⟨hsound, hsound.kept hkept, hdropped⟩

/-- A thread is created again while its record is kept, with an exception in flight on
    the new one. -/
def staleRun : List Step :=
  [.call (.create ⟨7⟩), .keep ['k'] ⟨7⟩, .call (.dispatch (.threadCreated ⟨7⟩)),
    .call (.write ⟨7⟩ .raise)]

theorem detached_isolated_stale :
    ((Registry.empty {}).session.run staleRun).kept? ['k'] = some ⟨⟨7⟩, 0⟩ ∧
    ¬ ((Registry.empty {}).session.run staleRun).registry.Registers ⟨⟨7⟩, 0⟩ ∧
    ((Registry.empty {}).session.run staleRun).Isolated ⟨⟨7⟩, 0⟩ :=
  ⟨rfl, by decide, detached_isolated {} staleRun ['k'] ⟨⟨7⟩, 0⟩ rfl (by decide)⟩

end FaultWatch

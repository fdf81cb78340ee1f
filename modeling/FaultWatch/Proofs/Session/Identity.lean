/-
  FaultWatch/Proofs/Session/Identity.lean
  =======================================
  **Which record a thread has, and for how long.**

  Two threads never have the same record, and a thread has the same record for as
  long as nothing rebinds it (`Session.Rebinds`): it is created again, destroyed, or
  released with all others.  No other step has a part in this.  Conversely, a record
  that a thread has lost in one of these ways never comes back, since the store gives
  no reference twice.  So two lookups of a thread find the same record exactly if it
  was not rebound in between (`record_identity`).
-/
import FaultWatch.Proofs.Session.Failing

namespace FaultWatch

namespace Session

/-! ### Rebinding a thread -/

/-- The step succeeds, and decides anew which record the thread has: it creates the
    thread, or drops it. -/
def Rebinds (s : Session) (st : Step) (t : ThreadId) : Prop :=
  (st.call? = some (.create t) ∨ st.Drops t) ∧ ∃ a, (s.step st).outcome = .answered a

variable {s : Session} {st : Step} {t : ThreadId} {ref : RecordRef}

theorem needs?_of_creates_or_drops (h : st.call? = some (.create t) ∨ st.Drops t) :
    st.asksTable = true ∧ st.needs? = none := by
  cases st with
  | call c =>
    refine ⟨rfl, ?_⟩
    simp only [Step.Drops, Step.call?, Option.some.injEq] at h
    rcases h with h | h | h <;> simp only [Step.needs?, Call.needs?, h]
  | keep | access | same | describe | poison | refused => simp [Step.Drops, Step.call?] at h

theorem rebinds_iff : s.Rebinds st t ↔
    (st.call? = some (.create t) ∨ st.Drops t) ∧ s.registry.table.poisoned = false := by
  apply and_congr_right
  intro h
  obtain ⟨hasks, hneeds⟩ := needs?_of_creates_or_drops h
  cases hp : s.registry.table.poisoned with
  | true =>
    have hobstacle : st.obstacle? s.registry = some .lockPoisoned := by
      cases st with
      | call c => exact Call.obstacle?_of_poisoned hp c
      | keep | access | same | describe | poison | refused => simp [Step.Drops, Step.call?] at h
    simp [answered_iff_obstacle? hasks, hobstacle]
  | false =>
    have hfails := failsExactly_of_usable hp hasks
    simpa [hneeds] using hfails.answered_iff

/-- **Only what rebinds a thread changes which record it has.** -/
theorem ref?_step_of_not_rebinds (h : ¬ s.Rebinds st t) :
    (s.step st).after.registry.ref? t = s.registry.ref? t := by
  cases hp : s.registry.table.poisoned with
  | true =>
    rw [registry_step]
    rcases change_of_poisoned hp st with hch | hch | ⟨slot, a, ref, -, -, hch⟩ <;> rw [hch] <;> rfl
  | false =>
    have hkeeps : ¬ (st.call? = some (.create t) ∨ st.Drops t) := by
      intro hbinds
      exact h (rebinds_iff.mpr ⟨hbinds, hp⟩)
    simp only [Step.Drops, not_or] at hkeeps
    obtain ⟨hcreate, hdestroy, hrelease⟩ := hkeeps
    rw [ref?_step hp]
    split
    · rename_i u hc
      have hne : t ≠ u := by
        rintro rfl
        exact hcreate hc
      exact if_neg hne
    · rename_i u hc
      have hne : t ≠ u := by
        rintro rfl
        exact hdestroy hc
      exact if_neg hne
    · rename_i hc
      exact absurd hc hrelease
    · rfl

/-- **A thread that is rebound has lost the record it had.** -/
theorem Rebinds.not_registers (h : s.Rebinds st t) (hs : s.Sound)
    (href : s.registry.ref? t = some ref) : ¬ (s.step st).after.registry.Registers ref := by
  obtain ⟨hbinds, hp⟩ := rebinds_iff.mp h
  obtain rfl : ref.thread = t := hs.registry.thread_eq href
  have hholds := hs.registry.holds href
  rw [Registry.Registers, ref?_step hp]
  rcases hbinds with hc | hc | hc
  · rw [hc]
    simp only [if_true, Option.some.injEq]
    intro hnext
    rw [← hnext] at hholds
    exact Store.not_holds_next _ _ hholds
  · simp [hc]
  · simp [hc]

/-! ### Runs -/

/-- **A record that was dropped is never registered again**, whatever is done. -/
theorem not_registers_run (hholds : s.registry.store.Holds ref)
    (h : ¬ s.registry.Registers ref) (later : List Step) :
    ¬ (s.run later).registry.Registers ref := by
  induction later generalizing s with
  | nil => exact h
  | cons st rest ih =>
    rw [run_cons]
    apply ih (holds_step hholds st)
    rw [registry_step]
    exact Registry.not_registers_apply hholds h _

theorem holds_run (h : s.registry.store.Holds ref) (later : List Step) :
    (s.run later).registry.store.Holds ref := by
  induction later generalizing s with
  | nil => exact h
  | cons st rest ih => exact ih (holds_step h st)

theorem run_take_add (s : Session) (steps : List Step) (i k : Nat) :
    s.run (steps.take (i + k)) = (s.run (steps.take i)).run ((steps.drop i).take k) := by
  rw [List.take_add, run_append]

theorem run_take_succ {steps : List Step} {n : Nat} (hst : steps[n]? = some st) (s : Session) :
    s.run (steps.take (n + 1)) = ((s.run (steps.take n)).step st).after := by
  rw [take_succ_of_getElem? hst, run_snoc]

/-- Who looks a thread up keeps the record that was found. -/
theorem kept?_of_keep {slot : Text} (h : s.registry.lookup t = .ok ref) :
    (s.step (.keep slot t)).after.kept? slot = some ref := by
  simp [kept?_step, h, Except.toOption]

/-- **Asking whether two slots keep the same record compares what they keep.** -/
theorem outcome_same {a b : Text} {ref' : RecordRef} (ha : s.kept? a = some ref)
    (hb : s.kept? b = some ref') :
    (s.step (.same a b)).outcome = .answered (.flag (ref = ref')) := by
  simp only [step, ha, hb]

theorem ref?_run_of_not_rebinds {steps : List Step} {i j : Nat} (hij : i ≤ j)
    (h : ∀ n st, i ≤ n → n < j → steps[n]? = some st → ¬ (s.run (steps.take n)).Rebinds st t) :
    (s.run (steps.take j)).registry.ref? t = (s.run (steps.take i)).registry.ref? t := by
  induction hij with
  | refl => rfl
  | @step j hij ih =>
    have hprefix := ih fun n st hin hnj => h n st hin (by omega)
    cases hst : steps[j]? with
    | none =>
      have hlength : steps.length ≤ j := List.getElem?_eq_none_iff.mp hst
      have htake : steps.take (j + 1) = steps.take j := by
        rw [List.take_of_length_le (by omega), List.take_of_length_le hlength]
      rw [htake]
      exact hprefix
    | some st =>
      rw [run_take_succ hst, ref?_step_of_not_rebinds (h j st hij (by omega) hst)]
      exact hprefix

theorem holds_take {steps : List Step} {i n : Nat} (hin : i ≤ n)
    (h : (s.run (steps.take i)).registry.store.Holds ref) :
    (s.run (steps.take n)).registry.store.Holds ref := by
  obtain ⟨k, rfl⟩ := Nat.exists_eq_add_of_le hin
  rw [run_take_add]
  exact holds_run h _

/-- A record that is registered later on has been all the time since it was made. -/
theorem registers_take {steps : List Step} {n j : Nat} (hnj : n ≤ j)
    (hholds : (s.run (steps.take n)).registry.store.Holds ref)
    (h : (s.run (steps.take j)).registry.Registers ref) :
    (s.run (steps.take n)).registry.Registers ref := by
  -- had it been dropped by then, it would not be there later on
  by_contra hnot
  obtain ⟨k, rfl⟩ := Nat.exists_eq_add_of_le hnj
  rw [run_take_add] at h
  exact not_registers_run hholds hnot _ h

end Session

/-! ### The identity of records -/

/-- What a lookup of the thread finds after the first `n` steps. -/
def foundAfter (c : Config) (steps : List Step) (n : Nat) (t : ThreadId) :
    Except Failure RecordRef :=
  ((Registry.empty c).session.run (steps.take n)).registry.lookup t

section

variable {c : Config} {steps : List Step} {i j : Nat} {slot : Text} {t t' : ThreadId}
  {ref ref' : RecordRef}

theorem foundAfter_eq_of_not_rebinds (hij : i ≤ j) (hi : foundAfter c steps i t = .ok ref)
    (hj : foundAfter c steps j t = .ok ref')
    (h : ∀ n st, i ≤ n → n < j → steps[n]? = some st →
      ¬ ((Registry.empty c).session.run (steps.take n)).Rebinds st t) : ref = ref' := by
  have hsame := Session.ref?_run_of_not_rebinds hij h
  rw [(Registry.lookup_eq_ok_iff.mp hi).2, (Registry.lookup_eq_ok_iff.mp hj).2] at hsame
  exact (Option.some.inj hsame).symm

theorem not_rebinds_of_foundAfter_eq (hi : foundAfter c steps i t = .ok ref)
    (hj : foundAfter c steps j t = .ok ref) {n : Nat} {st : Step} (hin : i ≤ n) (hnj : n < j)
    (hst : steps[n]? = some st) :
    ¬ ((Registry.empty c).session.run (steps.take n)).Rebinds st t := by
  intro hrebinds
  have hsound := Session.sound_run c
  have hi' := (Registry.lookup_eq_ok_iff.mp hi).2
  have hj' := (hsound (steps.take j)).registry.registers (Registry.lookup_eq_ok_iff.mp hj).2
  have hholds := (hsound (steps.take i)).registry.holds hi'
  obtain rfl : ref.thread = t := (hsound (steps.take i)).registry.thread_eq hi'
  -- the thread has the record before it is rebound, and would have it afterwards
  have hbefore := Session.registers_take (Nat.le_of_lt hnj) (Session.holds_take hin hholds) hj'
  have hlost := hrebinds.not_registers (hsound _) hbefore
  rw [← Session.run_take_succ hst] at hlost
  exact hlost (Session.registers_take hnj (Session.holds_take (by omega) hholds) hj')

end

/-- **The identity of records.**  At any time different threads have different
    records.  Two lookups in a run find the same record exactly if they are for the
    same thread and it was not rebound in between.  No step changes which record a
    thread has but one that rebinds it.  And callers can tell: what a lookup finds is
    kept in its slot, and two slots are said to keep the same record exactly if they
    do. -/
theorem record_identity (c : Config) (steps : List Step) :
    (∀ n t t' ref, ((Registry.empty c).session.run (steps.take n)).registry.ref? t = some ref →
      ((Registry.empty c).session.run (steps.take n)).registry.ref? t' = some ref → t = t') ∧
    (∀ i j slot slot' t t' ref ref', i < j →
      steps[i]? = some (.keep slot t) → foundAfter c steps i t = .ok ref →
      steps[j]? = some (.keep slot' t') → foundAfter c steps j t' = .ok ref' →
      (ref = ref' ↔ t = t' ∧ ∀ n st, i < n → n < j → steps[n]? = some st →
        ¬ ((Registry.empty c).session.run (steps.take n)).Rebinds st t)) ∧
    (∀ n st t, steps[n]? = some st →
      ((Registry.empty c).session.run (steps.take (n + 1))).registry.ref? t ≠
        ((Registry.empty c).session.run (steps.take n)).registry.ref? t →
      ((Registry.empty c).session.run (steps.take n)).Rebinds st t) ∧
    (∀ n slot t ref, steps[n]? = some (.keep slot t) → foundAfter c steps n t = .ok ref →
      ((Registry.empty c).session.run (steps.take (n + 1))).kept? slot = some ref) ∧
    (∀ n a b ref ref', ((Registry.empty c).session.run (steps.take n)).kept? a = some ref →
      ((Registry.empty c).session.run (steps.take n)).kept? b = some ref' →
      (((Registry.empty c).session.run (steps.take n)).step (.same a b)).outcome =
        .answered (.flag (ref = ref'))) := by
  refine ⟨?_, ?_, ?_, ?_, fun _ _ _ _ _ => Session.outcome_same⟩
  · intro n t t' ref ht ht'
    have hsound := (Session.sound_run c (steps.take n)).registry
    exact (hsound.thread_eq ht).symm.trans (hsound.thread_eq ht')
  · intro i j slot slot' t t' ref ref' hij hstep hi hstep' hj
    constructor
    · rintro rfl
      have ht := (Session.sound_run c _).registry.thread_eq (Registry.lookup_eq_ok_iff.mp hi).2
      have ht' := (Session.sound_run c _).registry.thread_eq (Registry.lookup_eq_ok_iff.mp hj).2
      obtain rfl : t = t' := ht.symm.trans ht'
      refine ⟨rfl, ?_⟩
      intro n st hin hnj hst
      exact not_rebinds_of_foundAfter_eq hi hj (Nat.le_of_lt hin) hnj hst
    · rintro ⟨rfl, hnot⟩
      apply foundAfter_eq_of_not_rebinds (Nat.le_of_lt hij) hi hj
      intro n st hin hnj hst
      rcases Nat.eq_or_lt_of_le hin with rfl | hlt
      · -- the first lookup itself rebinds nothing
        obtain rfl : .keep slot t = st := Option.some.inj (hstep.symm.trans hst)
        simp [Session.Rebinds, Step.Drops, Step.call?]
      · exact hnot n st hlt hnj hst
  · intro n st t hst hchanged
    by_contra hnot
    rw [Session.run_take_succ hst] at hchanged
    exact hchanged (Session.ref?_step_of_not_rebinds hnot)
  · intro n slot t ref hst hfound
    rw [Session.run_take_succ hst]
    exact Session.kept?_of_keep hfound

/-- The record of a thread is looked up twice, used through both slots and by a call,
    then replaced, and looked up again. -/
def replacedRun : List Step :=
  [.call (.create ⟨7⟩), .keep ['a'] ⟨7⟩, .access ['a'] (.write .raise), .call (.create ⟨8⟩),
    .call (.write ⟨7⟩ .clear), .keep ['b'] ⟨7⟩, .call (.dispatch (.threadCreated ⟨7⟩)),
    .keep ['c'] ⟨7⟩]

/-- Nothing rebinds the thread between the first two lookups, but the notification
    after them does; so the third slot keeps another record than the first. -/
theorem record_identity_replaced :
    (∀ n st, 1 < n → n < 5 → replacedRun[n]? = some st →
      ¬ ((Registry.empty {}).session.run (replacedRun.take n)).Rebinds st ⟨7⟩) ∧
    ((Registry.empty {}).session.run (replacedRun.take 6)).Rebinds
      (.call (.dispatch (.threadCreated ⟨7⟩))) ⟨7⟩ ∧
    ((Registry.empty {}).session.run (replacedRun.take 8)).kept? ['c'] = some ⟨⟨7⟩, 1⟩ ∧
    (((Registry.empty {}).session.run (replacedRun.take 8)).step (.same ['a'] ['c'])).outcome =
      .answered (.flag false) := by
  obtain ⟨-, hsame, hchanged, hkept, houtcome⟩ := record_identity {} replacedRun
  have hfirst := hsame 1 5 ['a'] ['b'] ⟨7⟩ ⟨7⟩ ⟨⟨7⟩, 0⟩ ⟨⟨7⟩, 0⟩ (by decide) rfl rfl rfl rfl
  have hthird := hkept 7 ['c'] ⟨7⟩ ⟨⟨7⟩, 1⟩ rfl rfl
  exact ⟨(hfirst.mp rfl).2, hchanged 6 _ ⟨7⟩ rfl (by decide), hthird,
    houtcome 8 ['a'] ['c'] ⟨⟨7⟩, 0⟩ ⟨⟨7⟩, 1⟩ (by decide) hthird⟩

end FaultWatch

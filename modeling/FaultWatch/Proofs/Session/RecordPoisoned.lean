/-
  FaultWatch/Proofs/Session/RecordPoisoned.lean
  =============================================
  **Dying with the lock of a record.**

  No write to a record can stop half way, so whoever dies while holding its lock leaves
  it whole, and everyone else looks past the lock.  A run in which this happens any
  number of times (`Incident.death`) is the run without it: the same steps have the same
  outcomes and write the same in the journal, and all there is at the end is the same
  (`Session.PoisonedAt`) but for the locks of the records that were struck
  (`Session.struck`).  Such a lock stays poisoned, whatever is done with the record.

  The lock shows in one place, the written form of a record and of the registry around
  it, and there one word for each record is all that differs (`Registry.hasForm`), in
  whatever order the table meets its entries (`Session.outcomeMeeting`).

  A death commutes with every use of a record (`Access.effect_poisonIf`), which is why
  the two runs never come apart.
-/
import FaultWatch.Proofs.Registry.Written
import FaultWatch.Proofs.Session.Alike
import FaultWatch.Proofs.Session.Failing

namespace FaultWatch

/-! ### Records -/

/-- Poison the lock, or leave it as it is. -/
def Guarded.poisonIf {α : Type} (b : Bool) (g : Guarded α) : Guarded α :=
  { g with poisoned := g.poisoned || b }

@[simp] theorem Guarded.value_poisonIf {α : Type} (b : Bool) (g : Guarded α) :
    (g.poisonIf b).value = g.value := rfl

@[simp] theorem Guarded.poisoned_poisonIf {α : Type} (b : Bool) (g : Guarded α) :
    (g.poisonIf b).poisoned = (g.poisoned || b) := rfl

namespace Access

/-- **It makes no difference whether a holder of the lock dies before the record is
    used or afterwards.** -/
theorem effect_poisonIf (a : Access) (b : Bool) (r : Record) :
    a.effect (r.poisonIf b) = (a.effect r).poisonIf b := by
  cases a with
  | poison => simp [effect, Guarded.poison, Guarded.poisonIf]
  | write w => simp [effect, Guarded.map, Guarded.poisonIf]
  | snapshot | flag | describe => rfl

theorem answer_poisonIf {a : Access} (ha : a ≠ .describe) (b : Bool) (r : Record) :
    a.answer (r.poisonIf b) = a.answer r := by
  cases a with
  | describe => exact absurd rfl ha
  | snapshot | flag => simp [answer]
  | write | poison => rfl

theorem poisoned_effect {r : Record} (h : r.poisoned = true) (a : Access) :
    (a.effect r).poisoned = true := by
  cases a with
  | poison => rfl
  | write | snapshot | flag | describe => exact h

end Access

/-! ### Registries -/

namespace Registry

/-- The first registry is the second one with the locks of these records poisoned. -/
structure PoisonedAt (struck : List RecordRef) (q r : Registry) : Prop where
  config : q.config = r.config
  table : q.table = r.table
  next : ∀ t, q.store.next t = r.store.next t
  get : ∀ ref, q.store.get ref = (r.store.get ref).poisonIf (ref ∈ struck)

variable {struck : List RecordRef} {ref : RecordRef} {q r : Registry}

theorem PoisonedAt.refl (r : Registry) : PoisonedAt [] r r := by
  refine ⟨rfl, rfl, fun _ => rfl, ?_⟩
  intro ref
  simp [Guarded.poisonIf]

theorem PoisonedAt.holds_iff (h : PoisonedAt struck q r) (ref : RecordRef) :
    q.store.Holds ref ↔ r.store.Holds ref :=
  Store.holds_congr (h.next ref.thread)

/-- **The same change on both sides strikes no further record.** -/
theorem PoisonedAt.apply (h : PoisonedAt struck q r) {ch : Change}
    (hch : ∀ ref a, ch = .access ref a → r.store.Holds ref) :
    PoisonedAt struck (q.apply ch) (r.apply ch) := by
  refine ⟨?_, table_apply_congr h.table h.next ch, next_apply_congr h.next ch, ?_⟩
  · rw [config_apply, config_apply, h.config]
  · intro ref
    have hchq : ∀ ref a, ch = .access ref a → q.store.Holds ref := by
      intro ref a heq
      exact (h.holds_iff ref).mpr (hch ref a heq)
    rw [get_apply hchq, get_apply hch, h.get]
    cases ch.use? ref with
    | none => rfl
    | some a => exact a.effect_poisonIf _ _

theorem PoisonedAt.strike (h : PoisonedAt struck q r) (hholds : r.store.Holds ref) :
    PoisonedAt (struck ++ [ref]) (q.apply (.access ref .poison)) r := by
  refine ⟨?_, h.table, ?_, ?_⟩
  · rw [config_apply, h.config]
  · intro t
    rw [next_apply_access, h.next]
  · intro ref'
    by_cases hne : ref' = ref
    · subst hne
      rw [get_apply_access ((h.holds_iff ref').mpr hholds), h.get]
      simp [Access.effect, Guarded.poison, Guarded.poisonIf]
    · have hother : ∀ a, Change.access ref .poison ≠ .access ref' a := by
        intro a heq
        exact hne (Change.access.inj heq).1.symm
      rw [get_apply_of_ne q hother, h.get]
      simp [hne]

theorem PoisonedAt.alike (h : PoisonedAt struck q r) : Alike q r := by
  refine ⟨h.config, h.table, ?_⟩
  intro t ref _
  simp only [infoAt, h.get, Record.info_eq_value, Guarded.value_poisonIf]

theorem PoisonedAt.shapeOf_eq (h : PoisonedAt struck q r) (found : List (ThreadId × RecordRef)) :
    q.shapeOf found = r.shapeWith found fun ref => (r.store.get ref).poisonIf (ref ∈ struck) := by
  simp only [shapeOf_eq_shapeWith, shapeWith, ← h.get, h.table, h.config]

end Registry

/-! ### Sessions -/

/-- A step that is taken, or someone who dies while holding the lock of the record in a
    slot. -/
inductive Incident where
  | step (st : Step)
  | death (slot : Text)

def Incident.taken : Incident → Step
  | step st => st
  | death slot => .access slot .poison

def Incident.step? : Incident → Option Step
  | step st => some st
  | death _ => none

/-- The step writes out a record, or the registry with the records in it. -/
def Step.describes : Step → Bool
  | .describe | .access _ .describe => true
  | _ => false

namespace Session

/-- The first session is the second one with the locks of these records poisoned. -/
structure PoisonedAt (struck : List RecordRef) (s' s : Session) : Prop where
  registry : s'.registry.PoisonedAt struck s.registry
  slots : s'.slots = s.slots

/-- The records that are struck by the deaths, in order. -/
def struck (s : Session) : List Incident → List RecordRef
  | [] => []
  | .step st :: rest => struck (s.step st).after rest
  | .death slot :: rest => (s.kept? slot).toList ++ struck s rest

variable {refs : List RecordRef} {ref : RecordRef} {s s' : Session} {st : Step}

theorem PoisonedAt.step (h : s'.PoisonedAt refs s) (hs : s.Sound) (st : Step) :
    (s'.step st).after.PoisonedAt refs (s.step st).after := by
  have hlookup := Registry.lookup_congr h.registry.table
  refine ⟨?_, slots_step_congr h.slots fun _ t _ => hlookup t⟩
  rw [registry_step, registry_step, change_congr h.registry.table h.slots]
  exact h.registry.apply fun _ _ hch => hs.holds_of_change hch

theorem PoisonedAt.death (h : s'.PoisonedAt refs s) (hs : s.Sound) (slot : Text) :
    (s'.step (.access slot .poison)).after.PoisonedAt (refs ++ (s.kept? slot).toList) s := by
  have hkept := kept?_congr h.slots slot
  cases hk : s.kept? slot with
  | none =>
    rw [hk] at hkept
    simpa [Session.step, hkept] using h
  | some ref =>
    rw [hk] at hkept
    have hch : s'.change (.access slot .poison) = .access ref .poison := by simp [change, hkept]
    refine ⟨?_, ?_⟩
    · rw [registry_step, hch]
      exact h.registry.strike (hs.kept hk)
    · simp only [Session.step, hkept]
      exact h.slots

/-- **A step that writes nothing out tells the same**, whatever locks are poisoned. -/
theorem PoisonedAt.told_step (h : s'.PoisonedAt refs s) (hst : st.describes = false) :
    (s'.step st).told = (s.step st).told := by
  have halike := h.registry.alike
  -- but for a slot, a step does not come near the lock of a record
  have hfinds : (∀ slot a, st ≠ .access slot a) → FindsSame st s' s := by
    intro haccess
    refine ⟨h.slots, fun _ => halike.told_run _, fun _ => halike.lookup _, ?_, ?_, ?_⟩
    · intro slot t ref _ hl
      exact halike.known (Registry.lookup_eq_ok_iff.mp hl).2
    · intro slot a ref heq
      exact absurd heq (haccess slot a)
    · rintro rfl
      simp [Step.describes] at hst
  cases st with
  | access slot a =>
    have ha : a ≠ .describe := by
      rintro rfl
      simp [Step.describes] at hst
    simp only [Turn.told, Session.step, kept?_congr h.slots]
    cases s.kept? slot with
    | none => rfl
    | some ref => simp only [Registry.answerAt, h.registry.get, Access.answer_poisonIf ha]
  | call | keep | same | describe | poison | refused => exact (hfinds (by simp)).told_step

theorem PoisonedAt.log_step (h : s'.PoisonedAt refs s) (st : Step) :
    (s'.step st).log = (s.step st).log := by
  by_cases hcall : ∃ c, st = .call c
  · obtain ⟨c, rfl⟩ := hcall
    have hcall : Step.describes (.call c) = false := rfl
    exact congrArg Prod.snd (h.told_step hcall)
  · have hnot : ∀ c, st ≠ .call c := fun c heq => hcall ⟨c, heq⟩
    rw [log_of_not_call hnot, log_of_not_call hnot]

/-- The lock stands in the way only of steps that go to the table, and it is the lock
    of the table. -/
theorem failed_lockPoisoned_iff (s : Session) (hst : ∀ f, st ≠ .refused f) :
    (s.step st).outcome = .failed .lockPoisoned ↔
      st.asksTable = true ∧ s.registry.table.poisoned = true := by
  cases hasks : st.asksTable with
  | true =>
    rw [failed_iff_obstacle? hasks, Step.obstacle?_eq_lockPoisoned_iff hasks]
    simp
  | false =>
    cases st with
    | call | keep => simp [Step.asksTable] at hasks
    | refused f => exact absurd rfl (hst f)
    | access slot a => cases hk : s.kept? slot <;> simp [step, hk]
    | same a b => cases ha : s.kept? a <;> cases hb : s.kept? b <;> simp [step, ha, hb]
    | describe | poison => simp [step]

/-! ### What is written out -/

/-- What comes of the step if the table meets its entries in this order.  Of all there is
    to be told, only the written form of the registry shows the order. -/
def outcomeMeeting (s : Session) (found : List (ThreadId × RecordRef)) (st : Step) : Outcome :=
  match st with
  | .describe => .answered (.text (s.registry.shapeOf found).inline)
  | _ => (s.step st).outcome

/-- The step itself goes by ascending thread. -/
theorem outcomeMeeting_toList (s : Session) (st : Step) :
    s.outcomeMeeting s.registry.table.value.toList st = (s.step st).outcome := by
  cases st <;> rfl

/-- The records that the step writes out, in order. -/
def shown (s : Session) (found : List (ThreadId × RecordRef)) : Step → List RecordRef
  | .describe => found.map (·.2)
  | .access slot .describe => (s.kept? slot).toList
  | _ => []

def locked (s : Session) (ref : RecordRef) : Bool := (s.registry.store.get ref).poisoned

/-- **What is written out differs in the state of the locks that were struck**, one word
    for each of them. -/
theorem PoisonedAt.described (h : s'.PoisonedAt refs s) (found : List (ThreadId × RecordRef))
    (hst : st.describes = true) :
    (s'.outcomeMeeting found st = .noSlot ∧ s.outcomeMeeting found st = .noSlot) ∨
      ∃ form : Form RecordRef, form.holes = s.shown found st ∧
        s'.outcomeMeeting found st =
          .answered (.text (form.fill fun ref => s.locked ref || decide (ref ∈ refs))) ∧
        s.outcomeMeeting found st = .answered (.text (form.fill s.locked)) := by
  cases st with
  | call | keep | same | poison | refused => simp [Step.describes] at hst
  | describe =>
    right
    obtain ⟨form, hholes, hfill⟩ :=
      s.registry.hasForm found fun ref => (s.registry.store.get ref).value
    refine ⟨form, hholes, ?_, ?_⟩
    · rw [← hfill, outcomeMeeting, h.registry.shapeOf_eq]
      rfl
    · rw [← hfill]
      rfl
  | access slot a =>
    cases a with
    | write | snapshot | flag | poison => simp [Step.describes] at hst
    | describe =>
      have hkept := kept?_congr h.slots slot
      cases hk : s.kept? slot with
      | none =>
        left
        rw [hk] at hkept
        exact ⟨by simp only [outcomeMeeting, Session.step, hkept],
          by simp only [outcomeMeeting, Session.step, hk]⟩
      | some ref =>
        right
        rw [hk] at hkept
        obtain ⟨form, hholes, hfill⟩ := Record.hasForm ref (s.registry.store.get ref).value
        refine ⟨form, by simpa [shown, hk] using hholes, ?_, ?_⟩
        · refine (outcome_access hkept .describe).trans ?_
          rw [← hfill, Registry.answerAt, h.registry.get]
          rfl
        · refine (outcome_access hk .describe).trans ?_
          rw [← hfill]
          rfl

theorem PoisonedAt.described_step (h : s'.PoisonedAt refs s) (hst : st.describes = true) :
    ((s'.step st).outcome = .noSlot ∧ (s.step st).outcome = .noSlot) ∨
      ∃ form : Form RecordRef, form.holes = s.shown s.registry.table.value.toList st ∧
        (s'.step st).outcome =
          .answered (.text (form.fill fun ref => s.locked ref || decide (ref ∈ refs))) ∧
        (s.step st).outcome = .answered (.text (form.fill s.locked)) := by
  have hdescribed := h.described s.registry.table.value.toList hst
  have hstep := s'.outcomeMeeting_toList st
  rw [h.registry.table] at hstep
  simpa only [hstep, outcomeMeeting_toList] using hdescribed

/-! ### Whole runs -/

/-- The session after all that happens. -/
def withDeaths (s : Session) (incidents : List Incident) : Session :=
  s.run (incidents.map Incident.taken)

/-- The session after the steps, had nobody died. -/
def withoutDeaths (s : Session) (incidents : List Incident) : Session :=
  s.run (incidents.filterMap Incident.step?)

theorem PoisonedAt.run (h : s'.PoisonedAt refs s) (hs : s.Sound) (incidents : List Incident) :
    (s'.withDeaths incidents).PoisonedAt (refs ++ s.struck incidents)
      (s.withoutDeaths incidents) := by
  -- deaths add to the struck records on one side and leave the other side as it is
  induction incidents generalizing refs s s' with
  | nil =>
    rw [Session.struck, List.append_nil]
    exact h
  | cons incident rest ih =>
    cases incident with
    | step st => exact ih (h.step hs st) (hs.step st)
    | death slot =>
      have hrest := ih (h.death hs slot) hs
      rw [List.append_assoc] at hrest
      exact hrest

theorem PoisonedAt.log_turns (h : s'.PoisonedAt refs s) (hs : s.Sound)
    (incidents : List Incident) :
    (s'.turns (incidents.map Incident.taken)).flatMap Turn.log =
      (s.turns (incidents.filterMap Incident.step?)).flatMap Turn.log := by
  induction incidents generalizing refs s s' with
  | nil => rfl
  | cons incident rest ih =>
    cases incident with
    | step st =>
      have hrest := ih (h.step hs st) (hs.step st)
      simp only [List.map_cons, List.filterMap_cons, Incident.taken, Incident.step?, turns,
        List.flatMap_cons, h.log_step, hrest]
    | death slot =>
      have hrest := ih (h.death hs slot) hs
      have hdeath : (s'.step (.access slot .poison)).log = [] := log_of_not_call (by simp) s'
      simp only [List.map_cons, List.filterMap_cons, Incident.taken, Incident.step?, turns,
        List.flatMap_cons, hdeath, List.nil_append, hrest]

theorem locked_step (hs : s.Sound) (hlocked : s.locked ref = true) (st : Step) :
    (s.step st).after.locked ref = true := by
  rw [locked, registry_step, Registry.get_apply fun _ _ hch => hs.holds_of_change hch]
  cases (s.change st).use? ref with
  | none => exact hlocked
  | some a => exact a.poisoned_effect hlocked

/-- **The lock of a record stays poisoned**, whatever is done. -/
theorem locked_run (hs : s.Sound) (hlocked : s.locked ref = true) (later : List Step) :
    (s.run later).locked ref = true := by
  induction later generalizing s with
  | nil => exact hlocked
  | cons st rest ih => exact ih (hs.step st) (locked_step hs hlocked st)

/-- What comes of the deaths in a run: poisoned locks, and nothing that anyone could
    tell without looking at these. -/
structure Transparent (s : Session) (incidents : List Incident) : Prop where
  /-- The same threads are registered, with the same records, the same is known of each,
      and the slots keep the same; but the locks of the struck records are poisoned. -/
  same : (s.withDeaths incidents).PoisonedAt (s.struck incidents) (s.withoutDeaths incidents)
  /-- Whatever step comes next, its outcome is the same, unless it writes locks out. -/
  outcome : ∀ st, st.describes = false →
    ((s.withDeaths incidents).step st).outcome = ((s.withoutDeaths incidents).step st).outcome
  /-- If it does, the texts differ in one word for each struck record they tell of. -/
  described : ∀ st, st.describes = true →
    (((s.withDeaths incidents).step st).outcome = .noSlot ∧
      ((s.withoutDeaths incidents).step st).outcome = .noSlot) ∨
    ∃ form : Form RecordRef,
      form.holes = (s.withoutDeaths incidents).shown
        (s.withoutDeaths incidents).registry.table.value.toList st ∧
      ((s.withDeaths incidents).step st).outcome = .answered (.text (form.fill fun ref =>
        (s.withoutDeaths incidents).locked ref || decide (ref ∈ s.struck incidents))) ∧
      ((s.withoutDeaths incidents).step st).outcome =
        .answered (.text (form.fill (s.withoutDeaths incidents).locked))
  /-- So they would in whatever order the table met its entries. -/
  described_meeting : ∀ found, (s.withoutDeaths incidents).registry.Enumerates found →
    ∀ st, st.describes = true →
      ((s.withDeaths incidents).outcomeMeeting found st = .noSlot ∧
        (s.withoutDeaths incidents).outcomeMeeting found st = .noSlot) ∨
      ∃ form : Form RecordRef, form.holes = (s.withoutDeaths incidents).shown found st ∧
        (s.withDeaths incidents).outcomeMeeting found st = .answered (.text (form.fill fun ref =>
          (s.withoutDeaths incidents).locked ref || decide (ref ∈ s.struck incidents))) ∧
        (s.withoutDeaths incidents).outcomeMeeting found st =
          .answered (.text (form.fill (s.withoutDeaths incidents).locked))
  /-- A step fails because of a lock only if it goes to the table, and someone died with
      the lock of the table. -/
  failed_iff : ∀ st, (∀ f, st ≠ .refused f) →
    (((s.withDeaths incidents).step st).outcome = .failed .lockPoisoned ↔
      st.asksTable = true ∧ .poison ∈ incidents.filterMap Incident.step?)
  /-- A record can be used through any slot that keeps it. -/
  usable : ∀ slot ref a, (s.withoutDeaths incidents).kept? slot = some ref →
    ∃ answer, ((s.withDeaths incidents).step (.access slot a)).outcome = .answered answer
  /-- The journal is the same. -/
  log : (s.turns (incidents.map Incident.taken)).flatMap Turn.log =
    (s.turns (incidents.filterMap Incident.step?)).flatMap Turn.log
  /-- The lock of a struck record is poisoned for good. -/
  struck : ∀ ref ∈ s.struck incidents, ∀ later,
    ((s.withDeaths incidents).run later).locked ref = true

end Session

/-- **Whoever dies with the lock of a record harms nobody.**  In any run, in which any
    number of these deaths occur at any time, nothing comes of them but that the locks
    are shown as poisoned. -/
theorem record_poisoning_transparent (c : Config) (incidents : List Incident) :
    (Registry.empty c).session.Transparent incidents := by
  have hs : (Registry.empty c).session.Sound := Session.sound_run c []
  have hstart : (Registry.empty c).session.PoisonedAt [] (Registry.empty c).session :=
    ⟨Registry.PoisonedAt.refl _, rfl⟩
  have hsame := hstart.run hs incidents
  rw [List.nil_append] at hsame
  refine ⟨hsame, ?_, fun _ => hsame.described_step, fun found _ _ => hsame.described found,
    ?_, ?_, hstart.log_turns hs incidents, ?_⟩
  · intro st hst
    exact congrArg Prod.fst (hsame.told_step hst)
  · intro st hst
    rw [Session.failed_lockPoisoned_iff _ hst, hsame.registry.table, Session.withoutDeaths,
      poisoned_run, decide_eq_true_iff]
  · intro slot ref a hk
    exact ⟨_, Session.outcome_access ((Session.kept?_congr hsame.slots slot).trans hk) a⟩
  · intro ref hmem later
    apply Session.locked_run (hs.run _)
    rw [Session.locked, ← Session.withDeaths, hsame.registry.get]
    simp [hmem]

/-- A record can be struck again when its thread is gone; an empty slot keeps none. -/
example : (Registry.empty {}).session.struck
    [.step (.call (.create ⟨7⟩)), .step (.keep ['k'] ⟨7⟩), .death ['k'],
      .step (.call (.destroy ⟨7⟩)), .death ['k'], .death ['l']] = [⟨⟨7⟩, 0⟩, ⟨⟨7⟩, 0⟩] := by
  decide

end FaultWatch

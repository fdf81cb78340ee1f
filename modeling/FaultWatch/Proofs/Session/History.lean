/-
  FaultWatch/Proofs/Session/History.lean
  ======================================
  **A record is what was written to it.**

  The steps of a run say which record is whose, without a registry to look at.  A
  record is named by its thread and by the number of records the thread had before;
  the thread has it until it is created again, destroyed or released with all
  others; whoever asks for it in that time can keep it in a slot.  `Past` has this
  as functions of the steps, and `Past.writesTo` collects the writes that reach a
  record in either way, through its thread or through a slot.

  `Past.Describes` ties a session to its past: the table, the slots, the number of
  records of each thread and the contents of every record are what the past says.
  One step keeps this (`Past.Describes.step`), so it holds after every run, and
  `record_history` reads the contents of all records off it.
-/
import FaultWatch.Proofs.Record.Law
import FaultWatch.Proofs.Session.Deed

namespace FaultWatch

/-! ### Records by the steps alone -/

/-- The steps of a run, the latest first. -/
abbrev Past := List Step

namespace Past

/-- Has nobody died while holding the lock of the table? -/
def usable (past : Past) : Bool := .poison ∉ past

/-- How many records have been made for the thread. -/
def made : Past → ThreadId → Nat
  | [], _ => 0
  | st :: past, t =>
    if usable past = true ∧ st.call? = some (.create t) then made past t + 1 else made past t

/-- The record that the thread has in the table. -/
def registered? : Past → ThreadId → Option RecordRef
  | [], _ => none
  | st :: past, t =>
    if usable past then
      match st.call? with
      | some (.create u) => if t = u then some ⟨t, made past t⟩ else registered? past t
      | some (.destroy u) => if t = u then none else registered? past t
      | some .release => none
      | _ => registered? past t
    else registered? past t

/-- The record that is handed out for the thread. -/
def found? (past : Past) (t : ThreadId) : Option RecordRef :=
  if past.usable then past.registered? t else none

/-- The record that was last put into the slot. -/
def kept? : Past → Text → Option RecordRef
  | [], _ => none
  | .keep slot' t :: past, slot =>
    if slot = slot' then (found? past t).or (kept? past slot) else kept? past slot
  | _ :: past, slot => kept? past slot

/-- The record that the step writes to, and the write. -/
def target? (past : Past) : Step → Option (RecordRef × Write)
  | .call c =>
    match c.direct with
    | .write t w => (past.found? t).map (·, w)
    | _ => none
  | .access slot (.write w) => (past.kept? slot).map (·, w)
  | _ => none

/-- All writes to the record, in the order in which they were made. -/
def writesTo : Past → RecordRef → List Write
  | [], _ => []
  | st :: past, ref =>
    match target? past st with
    | some (ref', w) => if ref' = ref then writesTo past ref ++ [w] else writesTo past ref
    | none => writesTo past ref

/-! ### A session and its past -/

/-- The session is what its past says. -/
structure Describes (past : Past) (s : Session) : Prop where
  poisoned : s.registry.table.poisoned = !past.usable
  made : ∀ t, (s.registry.store.next t).serial = past.made t
  registered : ∀ t, s.registry.ref? t = past.registered? t
  kept : ∀ slot, s.kept? slot = past.kept? slot
  written : ∀ ref, s.registry.infoAt ref = Info.clear.after (past.writesTo ref)

theorem describes_empty (c : Config) : Describes [] (Registry.empty c).session where
  poisoned := rfl
  made t := by simp [Registry.session, Registry.empty, Store.next, Past.made]
  registered t := by simp [Registry.session, Registry.empty, Registry.ref?, registered?]
  kept slot := rfl
  written ref := by
    simp [Registry.session, Registry.empty, Registry.infoAt, Store.get, writesTo, Record.fresh]

section
variable {past : Past} {s : Session}

theorem Describes.lookup (h : past.Describes s) (t : ThreadId) :
    (s.registry.lookup t).toOption = past.found? t := by
  have hpoisoned := h.poisoned
  cases hu : past.usable with
  | true =>
    rw [hu] at hpoisoned
    rw [Registry.lookup_of_usable hpoisoned, h.registered, found?, if_pos hu]
    cases past.registered? t <;> rfl
  | false =>
    rw [hu] at hpoisoned
    rw [Registry.lookup_of_poisoned hpoisoned, found?, hu]
    rfl

theorem Describes.write?_change (h : past.Describes s) (st : Step) :
    (s.change st).write? = past.target? st := by
  cases st with
  | call c =>
    simp only [Session.change, Call.change, target?]
    cases c.direct with
    | write t w =>
      dsimp only
      rw [← h.lookup]
      cases s.registry.lookup t <;> rfl
    | create | destroy | release => dsimp only; split <;> rfl
    | query | contains | size | isEmpty | threads | pendingThreads | anyPending
    | anyPendingStatus | dispatch => rfl
  | access slot a =>
    rw [Session.change, h.kept]
    cases hk : past.kept? slot with
    | none => cases a <;> simp [Change.write?, target?, hk]
    | some ref => cases a <;> simp [Change.write?, target?, hk]
  | keep | same | describe | poison | refused => rfl

theorem Describes.poisoned_step (h : past.Describes s) (st : Step) :
    (s.step st).after.registry.table.poisoned = !Past.usable (st :: past) := by
  rw [Session.poisoned_step, h.poisoned]
  by_cases hst : st = .poison
  · simp [hst, usable]
  · simp [hst, usable, Ne.symm hst]

theorem Describes.made_step (h : past.Describes s) (st : Step) (t : ThreadId) :
    ((s.step st).after.registry.store.next t).serial = Past.made (st :: past) t := by
  rw [Session.registry_step, Registry.serial_next_apply, h.made, Past.made]
  simp only [Session.change_eq_create_iff, h.poisoned, Bool.not_eq_false']

theorem Describes.registered_step (h : past.Describes s) (st : Step) (t : ThreadId) :
    (s.step st).after.registry.ref? t = Past.registered? (st :: past) t := by
  have hpoisoned := h.poisoned
  cases hu : past.usable with
  | true =>
    rw [hu] at hpoisoned
    have hnext : s.registry.store.next t = ⟨t, past.made t⟩ := by
      rw [← h.made t]
      rfl
    have href := Session.ref?_step hpoisoned st t
    rw [hnext, h.registered] at href
    rw [registered?, if_pos hu]
    exact href
  | false =>
    rw [hu] at hpoisoned
    rw [registered?, hu, if_neg (by decide), ← h.registered, Session.registry_step]
    rcases Session.change_of_poisoned hpoisoned st with hch | hch | ⟨slot, a, ref, -, -, hch⟩
    · rw [hch]; rfl
    · rw [hch]; rfl
    · rw [hch]; rfl

theorem Describes.kept_step (h : past.Describes s) (st : Step) (slot : Text) :
    (s.step st).after.kept? slot = Past.kept? (st :: past) slot := by
  rw [Session.kept?_step]
  cases st with
  | keep slot' t => simp only [h.lookup, h.kept, Past.kept?]
  | call | access | same | describe | poison | refused => exact h.kept slot

theorem Describes.written_step (h : past.Describes s) (hs : s.Sound) (st : Step)
    (ref : RecordRef) :
    (s.step st).after.registry.infoAt ref =
      Info.clear.after (Past.writesTo (st :: past) ref) := by
  rw [Session.registry_step, Registry.infoAt_apply fun _ _ hch => hs.holds_of_change hch,
    h.write?_change, writesTo]
  cases past.target? st with
  | none => exact h.written ref
  | some target =>
    obtain ⟨ref', w⟩ := target
    by_cases href : ref' = ref
    · simp only [href, if_true, Info.after_snoc, h.written]
    · simp only [href, if_false, h.written]

/-- **One step keeps a session with its past.** -/
theorem Describes.step (h : past.Describes s) (hs : s.Sound) (st : Step) :
    Describes (st :: past) (s.step st).after where
  poisoned := h.poisoned_step st
  made := h.made_step st
  registered := h.registered_step st
  kept := h.kept_step st
  written := h.written_step hs st

end

/-- **Every session that a caller can be in is what its past says.** -/
theorem describes_run (c : Config) (steps : List Step) :
    Describes steps.reverse ((Registry.empty c).session.run steps) := by
  induction steps using List.reverseRecOn with
  | nil => exact describes_empty c
  | append_singleton steps st ih =>
    rw [List.reverse_append, Session.run_snoc]
    exact ih.step (Session.sound_run c steps) st

end Past

/-! ### The contents of records -/

/-- Whoever asks for the facts about a registered thread gets those of its record. -/
theorem outcome_query {s : Session} {t : ThreadId} {ref : RecordRef}
    (h : s.registry.lookup t = .ok ref) :
    (s.step (.call (.query t))).outcome = .answered (.info (s.registry.infoAt ref)) := by
  simp [Session.step, Call.run, Registry.query, Registry.withRecord, h, Registry.Reply.map,
    Except.map, Outcome.ofResult]

/-- **The history law of records.**  After any run, the store has the records that
    the steps have made, the table and the slots have those that the steps put
    there, and every record, registered or not, has what the writes addressed to it
    have made of a new record.  This is what a query of its thread and a look through
    any slot that keeps it answer; and who only asks through a slot whether an
    exception is in flight is told by the same facts. -/
theorem record_history (c : Config) (steps : List Step) :
    let s := (Registry.empty c).session.run steps
    let past : Past := steps.reverse
    (∀ ref, s.registry.store.Holds ref ↔ ref.serial < past.made ref.thread) ∧
    (∀ t, s.registry.ref? t = past.registered? t) ∧
    (∀ slot, s.kept? slot = past.kept? slot) ∧
    ∀ ref, (s.registry.infoAt ref).Reflects (past.writesTo ref) ∧
      (∀ t, past.found? t = some ref →
        (s.step (.call (.query t))).outcome = .answered (.info (s.registry.infoAt ref))) ∧
      (∀ slot, past.kept? slot = some ref →
        (s.step (.access slot .snapshot)).outcome = .answered (.info (s.registry.infoAt ref)) ∧
        (s.step (.access slot .flag)).outcome =
          .answered (.flag (s.registry.infoAt ref).pending)) := by
  intro s past
  have h : past.Describes s := Past.describes_run c steps
  refine ⟨?_, h.registered, h.kept, ?_⟩
  · intro ref
    rw [← h.made]
    rfl
  · intro ref
    refine ⟨?_, ?_, ?_⟩
    · rw [h.written]
      exact Info.reflects_after _
    · intro t hfound
      apply outcome_query
      rw [← h.lookup] at hfound
      cases hl : s.registry.lookup t with
      | ok ref' => simpa [hl, Except.toOption] using hfound
      | error f => simp [hl, Except.toOption] at hfound
    · intro slot hkept
      rw [← h.kept] at hkept
      exact ⟨Session.outcome_access hkept .snapshot, Session.outcome_access hkept .flag⟩

end FaultWatch

/-
  FaultWatch/Proofs/Session/Told.lean
  ===================================
  **What a caller and the journal are told.**

  Two runs are compared by what is told in them, which is the answer to each step and
  what it writes in the journal (`Turn.told`).  This is decided by what the step finds
  in the places that it looks at (`Session.FindsSame`): a call by what its reply
  tells, a lookup by the table, and the use of a slot by the record that is kept there.
  So that sessions are told the same has to be shown of these places only.
-/
import FaultWatch.Proofs.Registry.Refusal
import FaultWatch.Proofs.Session.Deed

namespace FaultWatch

/-! ### Replies -/

namespace Registry

/-- What the caller and the journal are told by a reply. -/
def Reply.told {α : Type} (reply : Reply α) : Except Failure α × List Entry :=
  (reply.result, reply.log)

theorem told_map {α β : Type} {f : α → β} {x y : Reply α} (h : x.told = y.told) :
    (x.map f).told = (y.map f).told := by
  obtain ⟨hresult, hlog⟩ := Prod.mk.inj h
  simp only [Reply.told, Reply.map, hresult, hlog]

variable {q r : Registry}

/-- A notification is told what its direct call is told. -/
theorem told_dispatch {n : Notification} (h : (n.call.run q).told = (n.call.run r).told) :
    ((Call.dispatch n).run q).told = ((Call.dispatch n).run r).told := by
  obtain ⟨hresult, hlog⟩ := Prod.mk.inj h
  simp only [Call.run_dispatch, Reply.told, hresult, hlog]

end Registry

/-! ### Turns -/

/-- What the caller and the journal are told in a turn. -/
def Turn.told (turn : Turn) : Outcome × List Entry := (turn.outcome, turn.log)

/-- What the turn leaves in the journal, as it is written there. -/
def Turn.lines (turn : Turn) : List (Level × Text) := turn.log.map Entry.line

namespace Session

/-- The step finds the same in both sessions, wherever it looks. -/
structure FindsSame (st : Step) (s s' : Session) : Prop where
  slots : s.slots = s'.slots
  call : ∀ {c : Call}, st = .call c → (c.run s.registry).told = (c.run s'.registry).told
  lookup : ∀ {slot : Text} {t : ThreadId}, st = .keep slot t →
    s.registry.lookup t = s'.registry.lookup t
  known : ∀ {slot : Text} {t : ThreadId} {ref : RecordRef}, st = .keep slot t →
    s'.registry.lookup t = .ok ref → s.registry.infoAt ref = s'.registry.infoAt ref
  get : ∀ {slot : Text} {a : Access} {ref : RecordRef}, st = .access slot a →
    s'.kept? slot = some ref → s.registry.store.get ref = s'.registry.store.get ref
  shape : st = .describe → s.registry.shape = s'.registry.shape

variable {s s' : Session} {st : Step}

theorem kept?_congr (hslots : s.slots = s'.slots) (slot : Text) : s.kept? slot = s'.kept? slot := by
  rw [Session.kept?, Session.kept?, hslots]

/-- What a step does to the registry is decided by the table and the slots. -/
theorem change_congr (htable : s.registry.table = s'.registry.table)
    (hslots : s.slots = s'.slots) (st : Step) : s.change st = s'.change st := by
  cases st with
  | call c => simp only [change, Call.change, htable, Registry.lookup_congr htable]
  | access slot a => simp only [change, kept?_congr hslots]
  | keep | same | describe | poison | refused => rfl

/-- **A step that finds the same tells the same.** -/
theorem FindsSame.told_step (h : FindsSame st s s') : (s.step st).told = (s'.step st).told := by
  have hkept := kept?_congr h.slots
  cases st with
  | call c =>
    obtain ⟨hresult, hlog⟩ := Prod.mk.inj (h.call rfl)
    simp only [Turn.told, step, hresult, hlog]
  | keep slot t =>
    cases hl : s'.registry.lookup t with
    | error f => simp only [Turn.told, step, h.lookup rfl, hl]
    | ok ref => simp only [Turn.told, step, h.lookup rfl, hl, h.known rfl hl]
  | access slot a =>
    cases hslot : s'.kept? slot with
    | none => simp only [Turn.told, step, hkept, hslot]
    | some ref => simp only [Turn.told, step, hkept, hslot, Registry.answerAt, h.get rfl hslot]
  | same a b =>
    simp only [step, hkept]
    cases s'.kept? a <;> cases s'.kept? b <;> rfl
  | describe => simp only [Turn.told, step, h.shape rfl]
  | poison | refused => rfl

theorem slots_step_congr (hslots : s.slots = s'.slots)
    (hlookup : ∀ slot t, st = .keep slot t → s.registry.lookup t = s'.registry.lookup t) :
    (s.step st).after.slots = (s'.step st).after.slots := by
  have hkept := kept?_congr hslots
  cases st with
  | keep slot t =>
    have hfound := hlookup slot t rfl
    cases hl : s'.registry.lookup t <;> simp only [step, hfound, hl, keep, hslots]
  | access slot a => cases hslot : s'.kept? slot <;> simp only [step, hkept, hslot, hslots]
  | same a b =>
    simp only [step, hkept]
    cases s'.kept? a <;> cases s'.kept? b <;> exact hslots
  | call | describe | poison | refused => exact hslots

end Session

end FaultWatch

/-
  FaultWatch/Proofs/Session/SameBut.lean
  ======================================
  **Sessions that differ in one record.**

  Two sessions are the same but for one record if everything else agrees: the
  configuration, the table, the references given next, all other records, and the
  slots (`Session.SameBut`).  A use of the record on one side keeps them so
  (`sameBut_of_uses`), and so does the same step on both (`SameBut.after`).

  If the record is not registered, a step that does not use it gets the same answer
  on both sides and writes the same in the journal (`SameBut.step`): what others are
  told does not depend on it.
-/
import FaultWatch.Proofs.Session.Alike
import FaultWatch.Proofs.Session.Uses

namespace FaultWatch

/-! ### Registries that differ in one record -/

namespace Registry

/-- The registries are the same but for the record behind one reference. -/
structure SameBut (ref : RecordRef) (q r : Registry) : Prop where
  config : q.config = r.config
  table : q.table = r.table
  next : ∀ t, q.store.next t = r.store.next t
  get : ∀ {ref' : RecordRef}, ref' ≠ ref → q.store.get ref' = r.store.get ref'

variable {ref : RecordRef} {p q r : Registry}

theorem SameBut.refl (ref : RecordRef) (r : Registry) : SameBut ref r r :=
  ⟨rfl, rfl, fun _ => rfl, fun _ => rfl⟩

theorem SameBut.symm (h : SameBut ref q r) : SameBut ref r q :=
  ⟨h.config.symm, h.table.symm, fun t => (h.next t).symm, fun hne => (h.get hne).symm⟩

theorem SameBut.trans (h : SameBut ref p q) (h' : SameBut ref q r) : SameBut ref p r :=
  ⟨h.config.trans h'.config, h.table.trans h'.table, fun t => (h.next t).trans (h'.next t),
    fun hne => (h.get hne).trans (h'.get hne)⟩

theorem SameBut.holds_iff (h : SameBut ref q r) (ref' : RecordRef) :
    q.store.Holds ref' ↔ r.store.Holds ref' :=
  Store.holds_congr (h.next ref'.thread)

theorem sameBut_access (r : Registry) (ref : RecordRef) (a : Access) :
    SameBut ref (r.apply (.access ref a)) r := by
  refine ⟨config_apply r _, rfl, next_apply_access r ref a, ?_⟩
  intro ref' hne
  apply get_apply_of_ne
  intro a' heq
  exact hne (Change.access.inj heq).1.symm

theorem SameBut.apply (h : SameBut ref q r) {ch : Change}
    (hch : ∀ ref' a, ch = .access ref' a → r.store.Holds ref') :
    SameBut ref (q.apply ch) (r.apply ch) := by
  refine ⟨?_, table_apply_congr h.table h.next ch, next_apply_congr h.next ch, ?_⟩
  · rw [config_apply, config_apply, h.config]
  · intro ref' hne
    -- a use of the other record changes it in the same way on both sides
    have hchq : ∀ ref a, ch = .access ref a → q.store.Holds ref := fun ref a heq =>
      (h.holds_iff ref).mpr (hch ref a heq)
    rw [get_apply hchq, get_apply hch, h.get hne]

theorem Sound.ne_of_ref? (hr : r.Sound) (hdropped : ¬ r.Registers ref) {t : ThreadId}
    {ref' : RecordRef} (href : r.ref? t = some ref') : ref' ≠ ref := by
  rintro rfl
  exact hdropped (hr.registers href)

/-- Without the record in the table, no call can tell the registries apart. -/
theorem SameBut.alike (h : SameBut ref q r) (hr : r.Sound) (hdropped : ¬ r.Registers ref) :
    Alike q r where
  config := h.config
  table := h.table
  known href := congrArg Record.info (h.get (hr.ne_of_ref? hdropped href))

/-- The registry is written out without records that are not in the table. -/
theorem SameBut.shape_eq (h : SameBut ref q r) (hr : r.Sound) (hdropped : ¬ r.Registers ref) :
    q.shape = r.shape := by
  have hrows :
      r.table.value.toList.map (fun entry => (entry.1.tagged, (q.store.get entry.2).shape)) =
        r.table.value.toList.map fun entry =>
          (entry.1.tagged, (r.store.get entry.2).shape) := by
    apply List.map_congr_left
    intro entry hmem
    have href := (r.enumerates_toList.mem_iff _ _).mp hmem
    simp only [h.get (hr.ne_of_ref? hdropped href)]
  simp only [shape, shapeOf, h.table, h.config, hrows]

end Registry

/-! ### Sessions that differ in one record -/

namespace Session

structure SameBut (ref : RecordRef) (s s' : Session) : Prop where
  registry : s.registry.SameBut ref s'.registry
  slots : s.slots = s'.slots

end Session

/-- The turns tell the same and lead to the same, but for the record. -/
structure Turn.SameBut (ref : RecordRef) (x y : Turn) : Prop where
  outcome : x.outcome = y.outcome
  log : x.log = y.log
  after : x.after.SameBut ref y.after

namespace Session

variable {ref : RecordRef} {s s' : Session} {st : Step}

/-- The steps that do not use the record. -/
def others (ref : RecordRef) (s : Session) (st : Step) : Bool := !s.uses ref st

theorem SameBut.refl (ref : RecordRef) (s : Session) : SameBut ref s s :=
  ⟨Registry.SameBut.refl ref s.registry, rfl⟩

theorem SameBut.symm (h : SameBut ref s s') : SameBut ref s' s :=
  ⟨h.registry.symm, h.slots.symm⟩

theorem SameBut.trans {s'' : Session} (h : SameBut ref s s') (h' : SameBut ref s' s'') :
    SameBut ref s s'' :=
  ⟨h.registry.trans h'.registry, h.slots.trans h'.slots⟩

theorem SameBut.kept? (h : SameBut ref s s') (slot : Text) : s.kept? slot = s'.kept? slot :=
  kept?_congr h.slots slot

theorem SameBut.uses_eq (h : SameBut ref s s') (st : Step) : s.uses ref st = s'.uses ref st := by
  cases st with
  | access slot a => simp only [uses, useOf?, h.kept?]
  | call | keep | same | describe | poison | refused => rfl

theorem SameBut.after (h : SameBut ref s s') (hs' : s'.Sound) (st : Step) :
    SameBut ref (s.step st).after (s'.step st).after := by
  have hlookup := Registry.lookup_congr h.registry.table
  refine ⟨?_, slots_step_congr h.slots fun _ t _ => hlookup t⟩
  rw [registry_step, registry_step, change_congr h.registry.table h.slots]
  exact h.registry.apply fun _ _ hch => hs'.holds_of_change hch

theorem sameBut_of_uses (hu : s.uses ref st = true) : SameBut ref (s.step st).after s := by
  obtain ⟨a, ha⟩ := Option.isSome_iff_exists.mp hu
  obtain ⟨slot, rfl, hk⟩ := useOf?_eq_some_iff.mp ha
  refine ⟨?_, ?_⟩
  · have hch : s.change (.access slot a) = .access ref a := by simp [change, hk]
    rw [registry_step, hch]
    exact Registry.sameBut_access s.registry ref a
  · simp only [Session.step, hk]

/-- **A step that does not use the record is the same turn**, whatever was done with
    the record. -/
theorem SameBut.step (h : SameBut ref s s') (hs' : s'.Sound)
    (hdropped : ¬ s'.registry.Registers ref) (hst : s'.others ref st = true) :
    (s.step st).SameBut ref (s'.step st) := by
  have halike := h.registry.alike hs'.registry hdropped
  have hfinds : FindsSame st s s' := by
    refine ⟨h.slots, fun _ => halike.told_run _, fun _ => halike.lookup _, ?_, ?_, ?_⟩
    · intro slot t ref _ hl
      exact halike.known (Registry.lookup_eq_ok_iff.mp hl).2
    · rintro slot a ref' rfl hk
      have hne : ref' ≠ ref := by
        rintro rfl
        simp [others, uses, useOf?, hk] at hst
      exact h.registry.get hne
    · intro _
      exact h.registry.shape_eq hs'.registry hdropped
  obtain ⟨houtcome, hlog⟩ := Prod.mk.inj hfinds.told_step
  exact ⟨houtcome, hlog, h.after hs' st⟩

end Session

end FaultWatch

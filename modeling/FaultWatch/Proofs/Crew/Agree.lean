/-
  FaultWatch/Proofs/Crew/Agree.lean
  =================================
  **Registries that agree on some threads.**

  A worker who uses some threads only cannot tell two registries apart that agree on
  these threads (`Registry.AgreesOn`): they have the same references for them, and
  the same records made for them.  The other threads may differ in any way.

  Two facts make workers independent of each other.  A step within a set of threads
  gets the same answer and writes the same in the journal on registries that agree on
  the set, and they agree afterwards (`told_step`, `AgreesOn.step`).  And it leaves
  everything outside the set as it was (`agreesOn_step_of_within`).  References need
  no renaming in this, since a thread's references do not depend on what other
  threads do.
-/
import FaultWatch.Proofs.Session.Told

namespace FaultWatch

/-! ### Staying within a set of threads -/

def Change.Within (own : ThreadId → Prop) : Change → Prop
  | .idle => True
  | .create t | .destroy t => own t
  | .access ref _ => own ref.thread
  | .release | .poison => False

/-- The call is about one thread, and it is in the set. -/
def Call.Within (own : ThreadId → Prop) : Call → Prop
  | .create t | .destroy t | .write t _ | .query t | .contains t => own t
  | .dispatch n => own n.thread
  | .release | .size | .isEmpty | .threads | .pendingThreads | .anyPending
  | .anyPendingStatus => False

/-- The step is about one thread of the set, or about what is kept in slots. -/
def Step.Within (own : ThreadId → Prop) : Step → Prop
  | .call c => c.Within own
  | .keep _ t => own t
  | .access _ _ | .same _ _ | .refused _ => True
  | .describe | .poison => False

/-! ### The rows of a store -/

namespace Store

theorem rows_insert (s : Store) (t u : ThreadId) :
    (s.insert t).rows[u]? = if u = t then some ((s.row t).push Record.fresh) else s.rows[u]? := by
  by_cases h : u = t
  · simp [insert, h]
  · simp [insert, Std.ExtTreeMap.getElem?_insert, h, Ne.symm h]

theorem rows_modify (s : Store) (ref : RecordRef) (f : Record → Record) (u : ThreadId) :
    (s.modify ref f).rows[u]? =
      if u = ref.thread then s.rows[u]?.map (·.modify ref.serial f) else s.rows[u]? := by
  by_cases h : u = ref.thread
  · simp [modify, h]
  · simp [modify, Std.ExtTreeMap.getElem?_modify, h, Ne.symm h]

theorem row_eq (s : Store) (t : ThreadId) : s.row t = s.rows[t]?.getD #[] :=
  Std.ExtTreeMap.getD_eq_getD_getElem?

end Store

/-! ### Agreement -/

namespace Registry

/-- The registries are the same to everyone who uses threads of the set only. -/
structure AgreesOn (own : ThreadId → Prop) (q r : Registry) : Prop where
  config : q.config = r.config
  poisoned : q.table.poisoned = r.table.poisoned
  ref? : ∀ {t : ThreadId}, own t → q.ref? t = r.ref? t
  rows : ∀ {t : ThreadId}, own t → q.store.rows[t]? = r.store.rows[t]?

variable {own own' : ThreadId → Prop} {p q r : Registry} {t : ThreadId} {ref : RecordRef}

theorem AgreesOn.refl (own : ThreadId → Prop) (r : Registry) : AgreesOn own r r :=
  ⟨rfl, rfl, fun _ => rfl, fun _ => rfl⟩

theorem AgreesOn.symm (h : AgreesOn own q r) : AgreesOn own r q :=
  ⟨h.config.symm, h.poisoned.symm, fun ht => (h.ref? ht).symm, fun ht => (h.rows ht).symm⟩

theorem AgreesOn.trans (hp : AgreesOn own p q) (hq : AgreesOn own q r) : AgreesOn own p r :=
  ⟨hp.config.trans hq.config, hp.poisoned.trans hq.poisoned,
    fun ht => (hp.ref? ht).trans (hq.ref? ht), fun ht => (hp.rows ht).trans (hq.rows ht)⟩

theorem AgreesOn.mono (h : AgreesOn own q r) (hsub : ∀ t, own' t → own t) :
    AgreesOn own' q r :=
  ⟨h.config, h.poisoned, fun ht => h.ref? (hsub _ ht), fun ht => h.rows (hsub _ ht)⟩

theorem AgreesOn.eq (h : AgreesOn own q r) (hall : ∀ t, own t) : q = r := by
  obtain ⟨config, ⟨rows⟩, ⟨table, poisoned⟩⟩ := q
  obtain ⟨config', ⟨rows'⟩, ⟨table', poisoned'⟩⟩ := r
  obtain rfl : config = config' := h.config
  obtain rfl : poisoned = poisoned' := h.poisoned
  obtain rfl : table = table' := Std.ExtTreeMap.ext_getElem? fun t => h.ref? (hall t)
  obtain rfl : rows = rows' := Std.ExtTreeMap.ext_getElem? fun t => h.rows (hall t)
  rfl

theorem AgreesOn.row (h : AgreesOn own q r) (ht : own t) : q.store.row t = r.store.row t := by
  rw [Store.row_eq, Store.row_eq, h.rows ht]

theorem AgreesOn.next (h : AgreesOn own q r) (ht : own t) :
    q.store.next t = r.store.next t := by
  rw [Store.next, Store.next, h.row ht]

theorem AgreesOn.get (h : AgreesOn own q r) (href : own ref.thread) :
    q.store.get ref = r.store.get ref := by
  rw [Store.get, Store.get, h.row href]

/-! ### Changes within the set and outside of it -/

/-- The same change within the set, made to both, keeps them in agreement. -/
theorem AgreesOn.apply (h : AgreesOn own q r) {ch : Change} (hch : ch.Within own) :
    AgreesOn own (q.apply ch) (r.apply ch) := by
  refine ⟨?_, ?_, ?_, ?_⟩
  · rw [config_apply, config_apply, h.config]
  · rw [poisoned_apply, poisoned_apply, h.poisoned]
  · intro u hu
    cases ch with
    | idle => exact h.ref? hu
    | create t => rw [ref?_create, ref?_create, h.next hch, h.ref? hu]
    | destroy t => rw [ref?_destroy, ref?_destroy, h.ref? hu]
    | access ref a => exact h.ref? hu
    | release => exact hch.elim
    | poison => exact hch.elim
  · intro u hu
    cases ch with
    | idle => exact h.rows hu
    | create t => simp only [Registry.apply, Store.rows_insert, h.row hch, h.rows hu]
    | destroy t => exact h.rows hu
    | access ref a => simp only [Registry.apply, accessAt, Store.rows_modify, h.rows hu]
    | release => exact hch.elim
    | poison => exact hch.elim

/-- **A change within the set leaves everything outside as it was.** -/
theorem agreesOn_apply_of_within {ch : Change} (hch : ch.Within own) (r : Registry) :
    AgreesOn (fun t => ¬ own t) (r.apply ch) r := by
  refine ⟨config_apply r ch, ?_, ?_, ?_⟩
  · rw [poisoned_apply]
    have hne : ch ≠ .poison := by
      rintro rfl
      exact hch
    simp [hne]
  · intro u hu
    have hne : ∀ t, own t → u ≠ t := by
      rintro t ht rfl
      exact hu ht
    cases ch with
    | idle => rfl
    | create t => rw [ref?_create, if_neg (hne t hch)]
    | destroy t => rw [ref?_destroy, if_neg (hne t hch)]
    | access ref a => rfl
    | release => exact hch.elim
    | poison => exact hch.elim
  · intro u hu
    have hne : ∀ t, own t → u ≠ t := by
      rintro t ht rfl
      exact hu ht
    cases ch with
    | idle => rfl
    | create t => exact (Store.rows_insert r.store t u).trans (if_neg (hne t hch))
    | destroy t => rfl
    | access ref a => exact (Store.rows_modify r.store ref _ u).trans (if_neg (hne _ hch))
    | release => exact hch.elim
    | poison => exact hch.elim

/-! ### What a call tells its caller -/

theorem AgreesOn.contains (h : AgreesOn own q r) (ht : own t) :
    q.table.value.contains t = r.table.value.contains t := by
  have href := h.ref? ht
  rw [Registry.ref?, Registry.ref?] at href
  rw [← Std.ExtTreeMap.isSome_getElem?_eq_contains, href,
    Std.ExtTreeMap.isSome_getElem?_eq_contains]

theorem AgreesOn.lookup (h : AgreesOn own q r) (ht : own t) : q.lookup t = r.lookup t := by
  cases hp : r.table.poisoned with
  | true =>
    have hpq : q.table.poisoned = true := h.poisoned.trans hp
    rw [lookup_of_poisoned hpq, lookup_of_poisoned hp]
  | false =>
    have hpq : q.table.poisoned = false := h.poisoned.trans hp
    rw [lookup_of_usable hpq, lookup_of_usable hp, h.ref? ht]

/-- The record that is found for a thread of the set was made for a thread of it. -/
theorem Sound.own_of_lookup (hr : r.Sound) (hl : r.lookup t = .ok ref) (ht : own t) :
    own ref.thread := by
  rw [hr.thread_eq (lookup_eq_ok_iff.mp hl).2]
  exact ht

theorem AgreesOn.told_create (h : AgreesOn own q r) (ht : own t) :
    (q.create t).told = (r.create t).told := by
  cases hp : r.table.poisoned <;>
    simp [create, Reply.told, Guarded.lock, h.poisoned, hp, h.config, h.contains ht]

theorem AgreesOn.told_destroy (h : AgreesOn own q r) (ht : own t) :
    (q.destroy t).told = (r.destroy t).told := by
  cases hp : r.table.poisoned <;>
    simp [destroy, Reply.told, Guarded.lock, h.poisoned, hp, h.config, h.contains ht]

theorem AgreesOn.told_write (h : AgreesOn own q r) (ht : own t) (w : Write) :
    (q.write t w).told = (r.write t w).told := by
  cases hl : r.lookup t <;> simp [write, withRecord, Reply.told, h.lookup ht, hl]

theorem AgreesOn.told_query (h : AgreesOn own q r) (hr : r.Sound) (ht : own t) :
    (q.query t).told = (r.query t).told := by
  cases hl : r.lookup t with
  | error f => simp [query, withRecord, Reply.told, h.lookup ht, hl]
  | ok ref =>
    have hget := h.get (hr.own_of_lookup hl ht)
    simp [query, withRecord, Reply.told, h.lookup ht, hl, infoAt, hget]

/-- **A call within the set is told the same.** -/
theorem AgreesOn.told_run (h : AgreesOn own q r) (hr : r.Sound) {c : Call}
    (hc : c.Within own) : (c.run q).told = (c.run r).told := by
  cases c with
  | create t => exact told_map (h.told_create hc)
  | destroy t => exact told_map (h.told_destroy hc)
  | write t w => exact told_map (h.told_write hc w)
  | query t => exact told_map (h.told_query hr hc)
  | contains t =>
    cases hp : r.table.poisoned <;>
      simp [Call.run, Reply.look, Reply.told, Registry.contains, Guarded.lock, Except.map,
        h.poisoned, hp, h.contains hc]
  | dispatch n =>
    apply told_dispatch
    cases n with
    | threadCreated t => exact told_map (h.told_create hc)
    | threadDestroyed t => exact told_map (h.told_destroy hc)
    | exceptionCleared t => exact told_map (h.told_write hc _)
    | exceptionThrown t => exact told_map (h.told_write hc _)
    | exceptionCatcherFound t f => exact told_map (h.told_write hc _)
    | exceptionQuery t => exact told_map (h.told_query hr hc)
  | release | size | isEmpty | threads | pendingThreads | anyPending | anyPendingStatus =>
    exact hc.elim

/-! ### What a call changes -/

theorem within_direct {c : Call} (hc : c.Within own) : c.direct.Within own := by
  cases c with
  | dispatch n => cases n <;> exact hc
  | _ => exact hc

theorem AgreesOn.change_eq (h : AgreesOn own q r) {c : Call} (hc : c.Within own) :
    c.change q = c.change r := by
  have hdirect := within_direct hc
  unfold Call.change
  generalize c.direct = direct at hdirect ⊢
  cases direct with
  | create t => simp only [h.poisoned]
  | destroy t => simp only [h.poisoned]
  | write t w => simp only [h.lookup hdirect]
  | query | contains | dispatch => rfl
  | release | size | isEmpty | threads | pendingThreads | anyPending | anyPendingStatus =>
    exact hdirect.elim

theorem within_change (hr : r.Sound) {c : Call} (hc : c.Within own) :
    (c.change r).Within own := by
  have hdirect := within_direct hc
  unfold Call.change
  generalize c.direct = direct at hdirect ⊢
  cases direct with
  | create t | destroy t =>
    dsimp only
    split
    · trivial
    · exact hdirect
  | write t w =>
    dsimp only
    cases hl : r.lookup t with
    | error f => trivial
    | ok ref => exact hr.own_of_lookup hl hdirect
  | query | contains | dispatch => trivial
  | release | size | isEmpty | threads | pendingThreads | anyPending | anyPendingStatus =>
    exact hdirect.elim

end Registry

/-! ### Sessions -/

namespace Session

/-- The sessions are the same to a worker who uses threads of the set only. -/
structure AgreesOn (own : ThreadId → Prop) (s s' : Session) : Prop where
  registry : s.registry.AgreesOn own s'.registry
  slots : s.slots = s'.slots

/-- Only records of threads of the set are kept. -/
def KeepsWithin (own : ThreadId → Prop) (s : Session) : Prop :=
  ∀ slot ref, s.kept? slot = some ref → own ref.thread

variable {own : ThreadId → Prop} {s s' : Session} {st : Step}

theorem AgreesOn.kept? (h : AgreesOn own s s') (slot : Text) : s.kept? slot = s'.kept? slot :=
  kept?_congr h.slots slot

theorem KeepsWithin.step (hk : s.KeepsWithin own) (hs : s.registry.Sound)
    (hst : st.Within own) : (s.step st).after.KeepsWithin own := by
  intro slot ref href
  rw [kept?_step] at href
  cases st with
  | keep slot' t =>
    by_cases hslot : slot = slot'
    · cases hl : s.registry.lookup t with
      | error f => exact hk slot ref (by simpa [hslot, hl, Except.toOption] using href)
      | ok ref' =>
        obtain rfl : ref' = ref := by simpa [hslot, hl, Except.toOption] using href
        exact hs.own_of_lookup hl hst
    · exact hk slot ref (by simpa [hslot] using href)
  | call | access | same | describe | poison | refused => exact hk slot ref href

theorem within_change (hs : s.registry.Sound) (hk : s.KeepsWithin own) (hst : st.Within own) :
    (s.change st).Within own := by
  cases st with
  | call c => exact Registry.within_change hs hst
  | access slot a =>
    cases hslot : s.kept? slot with
    | none => simp [change, hslot, Change.Within]
    | some ref =>
      simp only [change, hslot]
      exact hk slot ref hslot
  | keep | same | refused => trivial
  | describe | poison => exact hst.elim

theorem AgreesOn.change_eq (h : AgreesOn own s s') (hst : st.Within own) :
    s.change st = s'.change st := by
  cases st with
  | call c => exact h.registry.change_eq hst
  | access slot a => simp only [change, h.kept?]
  | keep | same | describe | poison | refused => rfl

theorem agreesOn_step_of_within (hs : s.registry.Sound) (hk : s.KeepsWithin own)
    (hst : st.Within own) :
    (s.step st).after.registry.AgreesOn (fun t => ¬ own t) s.registry := by
  rw [registry_step]
  exact Registry.agreesOn_apply_of_within (within_change hs hk hst) _

/-- **A step within the set is told the same on sessions that agree on the set.** -/
theorem AgreesOn.told_step (h : AgreesOn own s s') (hs : s'.registry.Sound)
    (hk : s'.KeepsWithin own) (hst : st.Within own) : (s.step st).told = (s'.step st).told := by
  apply FindsSame.told_step
  refine ⟨h.slots, ?_, ?_, ?_, ?_, ?_⟩
  · rintro c rfl
    exact h.registry.told_run hs hst
  · rintro slot t rfl
    exact h.registry.lookup hst
  · rintro slot t ref rfl hl
    exact congrArg Record.info (h.registry.get (hs.own_of_lookup hl hst))
  · rintro slot a ref rfl hslot
    exact h.registry.get (hk slot ref hslot)
  · rintro rfl
    exact hst.elim

theorem AgreesOn.slots_step (h : AgreesOn own s s') (hst : st.Within own) :
    (s.step st).after.slots = (s'.step st).after.slots := by
  apply slots_step_congr h.slots
  rintro slot t rfl
  exact h.registry.lookup hst

theorem AgreesOn.step (h : AgreesOn own s s') (hs : s'.registry.Sound)
    (hk : s'.KeepsWithin own) (hst : st.Within own) :
    AgreesOn own (s.step st).after (s'.step st).after := by
  refine ⟨?_, h.slots_step hst⟩
  rw [registry_step, registry_step, h.change_eq hst]
  exact h.registry.apply (within_change hs hk hst)

end Session

end FaultWatch

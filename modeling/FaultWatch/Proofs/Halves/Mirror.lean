/-
  FaultWatch/Proofs/Halves/Mirror.lean
  ====================================
  **Two registries with the same table.**

  One registry mirrors another if their tables are the same, they will give the same
  references next, and the same is known at every record of a given set
  (`Registry.Mirrors`).  The records outside the set are the ones that nobody can
  reach through the table any more, or that one of the registries is ahead with.

  The lemmas say what keeps two registries mirrors: the same operation on both, the
  use of a record outside the set on one of them, and a change of the set.
-/
import FaultWatch.Proofs.Halves.Basic

namespace FaultWatch

namespace Registry

/-- The tables are the same, the next references are, and so is what is known at the
    records of `K`. -/
structure Mirrors (K : RecordRef → Prop) (q r : Registry) : Prop where
  table : q.table = r.table
  next : ∀ t, q.store.next t = r.store.next t
  known : ∀ ref, K ref → q.infoAt ref = r.infoAt ref

section
variable {K L : RecordRef → Prop} {q r q' r' : Registry} {ref : RecordRef}

theorem Mirrors.refl (K : RecordRef → Prop) (r : Registry) : Mirrors K r r :=
  ⟨rfl, fun _ => rfl, fun _ _ => rfl⟩

theorem Mirrors.mono (h : Mirrors K q r) (hL : ∀ ref, L ref → K ref) : Mirrors L q r :=
  ⟨h.table, h.next, fun ref href => h.known ref (hL ref href)⟩

theorem Mirrors.trans (h : Mirrors K q r) (h' : Mirrors K r r') : Mirrors K q r' where
  table := h.table.trans h'.table
  next t := (h.next t).trans (h'.next t)
  known ref href := (h.known ref href).trans (h'.known ref href)

theorem Mirrors.ref?_eq (h : Mirrors K q r) (t : ThreadId) : q.ref? t = r.ref? t := by
  rw [ref?, h.table]
  rfl

theorem Mirrors.lookup_eq (h : Mirrors K q r) (t : ThreadId) : q.lookup t = r.lookup t := by
  rw [lookup, h.table]
  rfl

theorem Mirrors.holds_iff (h : Mirrors K q r) (ref : RecordRef) :
    q.store.Holds ref ↔ r.store.Holds ref :=
  Store.holds_congr (h.next ref.thread)

/-! ### Using a record -/

/-- Using a record leaves the table, the next references and all other records. -/
theorem mirrors_useAt (r : Registry) (ref : RecordRef) (u : Use) :
    Mirrors (· ≠ ref) (r.useAt ref u).2 r := by
  cases u with
  | query => exact Mirrors.refl _ r
  | write w =>
    refine ⟨rfl, next_apply_access r ref (.write w), ?_⟩
    intro ref' hne
    have hget : (r.apply (.access ref (.write w))).store.get ref' = r.store.get ref' :=
      get_apply_of_ne r (by
        intro a heq
        exact hne (Change.access.inj heq).1.symm)
    exact congrArg Record.info hget

theorem infoAt_useAt_write (hholds : r.store.Holds ref) (w : Write) :
    (r.useAt ref (.write w)).2.infoAt ref = Write.apply (r.infoAt ref) w :=
  (congrArg Record.info (get_apply_access hholds (.write w))).trans (Record.info_write _ w)

/-- Used in both of two registries that know the same at the records of `K`, a record
    of `K` gives the same answer, and they go on knowing the same. -/
theorem known_useAt_both (hknown : ∀ ref, K ref → q.infoAt ref = r.infoAt ref) (href : K ref)
    (hq : q.store.Holds ref) (hr : r.store.Holds ref) (u : Use) :
    (q.useAt ref u).1 = (r.useAt ref u).1 ∧
      ∀ ref', K ref' → (q.useAt ref u).2.infoAt ref' = (r.useAt ref u).2.infoAt ref' := by
  cases u with
  | query => exact ⟨congrArg Answer.info (hknown ref href), hknown⟩
  | write w =>
    refine ⟨rfl, ?_⟩
    intro ref' href'
    by_cases hne : ref' = ref
    · subst hne
      rw [infoAt_useAt_write hq, infoAt_useAt_write hr, hknown ref' href']
    · rw [(mirrors_useAt q ref _).known ref' hne, (mirrors_useAt r ref _).known ref' hne,
        hknown ref' href']

theorem Mirrors.useAt_both (h : Mirrors K q r) (href : K ref) (hholds : r.store.Holds ref)
    (u : Use) :
    (q.useAt ref u).1 = (r.useAt ref u).1 ∧ Mirrors K (q.useAt ref u).2 (r.useAt ref u).2 := by
  have hq := mirrors_useAt q ref u
  have hr := mirrors_useAt r ref u
  obtain ⟨hanswer, hknown⟩ := known_useAt_both h.known href ((h.holds_iff ref).mpr hholds) hholds u
  refine ⟨hanswer, ?_, ?_, hknown⟩
  · rw [hq.table, hr.table, h.table]
  · intro t
    rw [hq.next, hr.next, h.next]

/-- The second registry may use a record outside the set. -/
theorem Mirrors.useAt_right (h : Mirrors K q r) (href : ¬ K ref) (u : Use) :
    Mirrors K q (r.useAt ref u).2 := by
  have hr := (mirrors_useAt r ref u).mono (L := K) (by rintro ref' hK rfl; exact href hK)
  exact ⟨h.table.trans hr.table.symm, fun t => (h.next t).trans (hr.next t).symm,
    fun ref' hK => (h.known ref' hK).trans (hr.known ref' hK).symm⟩

/-! ### Operations done at one stroke -/

theorem infoAt_apply_whole {op : Operation} {ch : Change} (hop : op.change? = some ch)
    (r : Registry) (ref : RecordRef) : (r.apply ch).infoAt ref = r.infoAt ref := by
  have hne : ∀ a, ch ≠ .access ref a := by
    rintro a rfl
    cases op <;> simp [Operation.change?] at hop
  exact congrArg Record.info (get_apply_of_ne r hne)

/-- After the same operation on both, the same is known at the registered records: a
    record that was registered before is in the set, and a new one is fresh. -/
theorem Mirrors.apply_whole {op : Operation} {ch : Change} (h : Mirrors K q r)
    (hop : op.change? = some ch)
    (hK : ∀ ref, r.Registers ref → (r.apply ch).Registers ref → K ref) :
    Mirrors (r.apply ch).Registers (q.apply ch) (r.apply ch) := by
  refine ⟨table_apply_congr h.table h.next ch, next_apply_congr h.next ch, ?_⟩
  intro ref href
  rw [infoAt_apply_whole hop, infoAt_apply_whole hop]
  rcases ref?_of_apply href with hbefore | ⟨-, hnext⟩
  · exact h.known ref (hK ref hbefore href)
  · -- the record is new in both
    have hr : r.infoAt ref = .clear := by
      rw [hnext, infoAt, Store.get_next]
      rfl
    have hq : q.infoAt ref = .clear := by
      rw [hnext, ← h.next, infoAt, Store.get_next]
      rfl
    rw [hr, hq]

end

end Registry

end FaultWatch

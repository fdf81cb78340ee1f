/-
  FaultWatch/Proofs/Registry/Enumeration.lean
  ===========================================
  **The order in which a table is gone through.**

  A question about all threads goes through the entries of the table one by one, and
  nobody says in what order it meets them: this may depend on how much room the table
  has.  None of the answers shows it.  A search for an exception in flight finds one or
  not, whatever it meets first, and a list of threads is sorted before it is handed
  out, so two enumerations of the same entries (`Registry.Enumerates`) give one list.

  Of the records, such a question only looks at the flags of those in the table.  So
  registries with the same table and the same flags there (`Registry.SameFlags`) get the
  same answers (`SameFlags.sameFleet`), whatever else differs.
-/
import FaultWatch.Proofs.Registry.Change

namespace FaultWatch

theorem Handle.eq_of_le_of_le {k : HandleKind} {a b : Handle k} (h : a ≤ b) (h' : b ≤ a) :
    a = b :=
  eq_of_value (UInt64.le_antisymm h h')

/-- There is one ascending order of the same handles. -/
theorem Handle.eq_of_perm_of_pairwise {k : HandleKind} {xs ys : List (Handle k)}
    (h : xs.Perm ys) (hx : xs.Pairwise (· ≤ ·)) (hy : ys.Pairwise (· ≤ ·)) : xs = ys := by
  apply h.eq_of_pairwise ?_ hx hy
  intro a b _ _ hab hba
  exact Handle.eq_of_le_of_le hab hba

theorem Handle.sort_eq_of_pairwise {k : HandleKind} {xs ys : List (Handle k)} (h : xs.Perm ys)
    (hy : ys.Pairwise (· ≤ ·)) : sort xs = ys :=
  eq_of_perm_of_pairwise ((sort_perm xs).trans h) (pairwise_sort xs) hy

/-- **Sorting forgets the order** in which the handles came. -/
theorem Handle.sort_eq_of_perm {k : HandleKind} {xs ys : List (Handle k)} (h : xs.Perm ys) :
    sort xs = sort ys :=
  sort_eq_of_pairwise (h.trans (sort_perm ys).symm) (pairwise_sort ys)

/-- It makes no difference whether handles are left out before or after sorting. -/
theorem Handle.filter_sort {k : HandleKind} (p : Handle k → Bool) (hs : List (Handle k)) :
    (sort hs).filter p = sort (hs.filter p) := by
  symm
  exact sort_eq_of_pairwise ((sort_perm hs).filter p).symm ((pairwise_sort hs).filter p)

/-! ### Questions to a list of entries -/

section

variable {found found' : List (ThreadId × RecordRef)}

theorem Store.anyPending_eq_of_perm (s : Store) (h : found.Perm found') :
    s.anyPending found = s.anyPending found' :=
  h.any_eq

theorem Store.pendingThreads_eq_of_perm (s : Store) (h : found.Perm found') :
    s.pendingThreads found = s.pendingThreads found' := by
  apply Handle.sort_eq_of_perm
  exact (h.filter _).map _

theorem threadsOf_eq_of_perm (h : found.Perm found') : threadsOf found = threadsOf found' := by
  apply Handle.sort_eq_of_perm
  exact h.map _

section

variable {s s' : Store}

theorem Store.anyPending_congr
    (h : ∀ entry ∈ found, s.pendingAt entry.2 = s'.pendingAt entry.2) :
    s.anyPending found = s'.anyPending found := by
  rw [Bool.eq_iff_iff, Store.anyPending, Store.anyPending, List.any_eq_true, List.any_eq_true]
  apply exists_congr
  intro entry
  apply and_congr_right
  intro hmem
  exact Bool.eq_iff_iff.mp (h entry hmem)

theorem Store.pendingThreads_congr
    (h : ∀ entry ∈ found, s.pendingAt entry.2 = s'.pendingAt entry.2) :
    s.pendingThreads found = s'.pendingThreads found := by
  rw [Store.pendingThreads, Store.pendingThreads, List.filter_congr h]

end

end

/-! ### Flags -/

/-- Only clearing and raising change the flag of a record. -/
theorem Access.pending_effect {a : Access} (hclear : a ≠ .write .clear)
    (hraise : a ≠ .write .raise) (r : Record) : (a.effect r).pending = r.pending := by
  cases a with
  | write w =>
    cases w with
    | clear => exact absurd rfl hclear
    | raise => exact absurd rfl hraise
    | setCatcher f => simp [effect, Write.apply]
  | poison => simp [effect]
  | snapshot | flag | describe => rfl

/-! ### Questions to a registry -/

namespace Registry

/-- The list has the entries of the table, in whatever order. -/
def Enumerates (r : Registry) (found : List (ThreadId × RecordRef)) : Prop :=
  found.Perm r.table.value.toList

theorem Enumerates.perm {q r : Registry} {found found' : List (ThreadId × RecordRef)}
    (h : q.Enumerates found) (h' : r.Enumerates found') (htable : q.table = r.table) :
    found.Perm found' := by
  rw [Enumerates, htable] at h
  exact h.trans h'.symm

theorem enumerates_toList (r : Registry) : r.Enumerates r.table.value.toList :=
  List.Perm.refl _

theorem Enumerates.mem_iff {r : Registry} {found : List (ThreadId × RecordRef)}
    (h : r.Enumerates found) (t : ThreadId) (ref : RecordRef) :
    (t, ref) ∈ found ↔ r.ref? t = some ref := by
  rw [List.Perm.mem_iff h, Std.ExtTreeMap.mem_toList_iff_getElem?_eq_some, ref?]

theorem Enumerates.nodup {r : Registry} {found : List (ThreadId × RecordRef)}
    (h : r.Enumerates found) : (found.map Prod.fst).Nodup := by
  rw [(List.Perm.map Prod.fst h).nodup_iff, Std.ExtTreeMap.map_fst_toList_eq_keys]
  exact Std.ExtTreeMap.nodup_keys

/-- The registries have the same table, and the same flags in the records that are in
    it. -/
structure SameFlags (q r : Registry) : Prop where
  table : q.table = r.table
  pendingAt : ∀ {t : ThreadId} {ref : RecordRef}, r.ref? t = some ref →
    q.store.pendingAt ref = r.store.pendingAt ref

/-- The registries answer the four questions about all threads in the same way. -/
structure SameFleet (q r : Registry) : Prop where
  threads : q.threads = r.threads
  pendingThreads : q.pendingThreads = r.pendingThreads
  anyPending : q.anyPending = r.anyPending
  anyPendingStatus : q.anyPendingStatus = r.anyPendingStatus

/-- **The flags in the table decide the answers.** -/
theorem SameFlags.sameFleet {q r : Registry} (h : SameFlags q r) : SameFleet q r := by
  have hentries : q.entries = r.entries := by simp only [entries, h.table]
  have hflags : ∀ entry ∈ r.table.value.toList,
      q.store.pendingAt entry.2 = r.store.pendingAt entry.2 := by
    intro entry hmem
    exact h.pendingAt ((r.enumerates_toList.mem_iff _ _).mp hmem)
  have hany : q.anyPending = r.anyPending := by
    rw [anyPending, anyPending, hentries]
    cases hl : r.table.lock with
    | error f => simp only [entries, hl, Except.map]
    | ok table =>
      obtain ⟨-, rfl⟩ := Guarded.lock_eq_ok_iff.mp hl
      simp only [entries, hl, Except.map, Store.anyPending_congr hflags]
  refine ⟨by rw [threads, threads, hentries], ?_, hany, ?_⟩
  · rw [pendingThreads, pendingThreads, hentries]
    cases hl : r.table.lock with
    | error f => simp only [entries, hl, Except.map]
    | ok table =>
      obtain ⟨-, rfl⟩ := Guarded.lock_eq_ok_iff.mp hl
      simp only [entries, hl, Except.map, Store.pendingThreads_congr hflags]
  · rw [anyPendingStatus, anyPendingStatus, hany]

/-- A use that leaves the flag of its record as it is leaves all flags as they are,
    whether or not there is a record at the reference. -/
theorem pendingAt_accessAt {r : Registry} {ref : RecordRef} {a : Access}
    (h : (a.effect (r.store.get ref)).pending = (r.store.get ref).pending)
    (ref' : RecordRef) : (r.accessAt ref a).store.pendingAt ref' = r.store.pendingAt ref' := by
  rw [Store.pendingAt, Store.pendingAt, accessAt]
  by_cases hholds : r.store.Holds ref
  · by_cases heq : ref' = ref
    · subst heq
      rw [Store.get_modify_self hholds, h]
    · rw [Store.get_modify_of_ne heq]
  · rw [Store.get_modify_of_not_holds hholds]

end Registry

end FaultWatch

/-
  FaultWatch/Proofs/Registry/Members.lean
  =======================================
  **Who is registered, by every question that can be asked.**

  Membership can be read off in many ways: by asking whether a thread is there, by
  asking for its record, by any operation that needs the record, by the list of
  threads and by their number.  `Registry.HasMembers` says that all of them agree on
  one set of threads, and `hasMembers_of_usable` that on a usable table they do:
  the set is that of the threads for which the table has a reference.
-/
import FaultWatch.Proofs.Registry.Enumeration

namespace FaultWatch

theorem Handle.lt_of_le_of_ne {k : HandleKind} {a b : Handle k} (h : a ≤ b) (hne : a ≠ b) :
    a < b := by
  have hvalue : a.value ≠ b.value := fun heq => hne (eq_of_value heq)
  exact UInt64.lt_of_le_of_ne h hvalue

/-- Handles that are distinct are strictly ascending when they are sorted. -/
theorem Handle.pairwise_lt_sort {k : HandleKind} {hs : List (Handle k)} (h : hs.Nodup) :
    (sort hs).Pairwise (· < ·) := by
  have hnodup : (sort hs).Nodup := (sort_perm hs).nodup_iff.mpr h
  exact (pairwise_sort hs).imp₂ (fun _ _ hle hne => lt_of_le_of_ne hle hne) hnodup

/-! ### The list of threads -/

/-- **The threads of a table are strictly ascending**: none is listed twice. -/
theorem pairwise_threadsOf (table : ThreadTable) :
    (threadsOf table.toList).Pairwise (· < ·) := by
  apply Handle.pairwise_lt_sort
  rw [Std.ExtTreeMap.map_fst_toList_eq_keys]
  exact Std.ExtTreeMap.nodup_keys

theorem mem_threadsOf_iff (table : ThreadTable) (t : ThreadId) :
    t ∈ threadsOf table.toList ↔ table[t]?.isSome = true := by
  rw [threadsOf, (Handle.sort_perm _).mem_iff, Std.ExtTreeMap.map_fst_toList_eq_keys,
    Std.ExtTreeMap.mem_keys, Std.ExtTreeMap.isSome_getElem?_iff_mem]

theorem length_threadsOf (table : ThreadTable) :
    (threadsOf table.toList).length = table.size := by
  rw [threadsOf, (Handle.sort_perm _).length_eq, List.length_map,
    Std.ExtTreeMap.length_toList]

theorem isEmpty_table_iff (table : ThreadTable) :
    table.isEmpty = true ↔ ∀ t : ThreadId, ¬ table[t]?.isSome = true := by
  rw [Std.ExtTreeMap.isEmpty_iff, Std.ExtTreeMap.eq_empty_iff_forall_not_mem]
  exact forall_congr' fun t => by rw [Std.ExtTreeMap.isSome_getElem?_iff_mem]

namespace Registry

/-! ### Operations that need the record -/

theorem result_query (r : Registry) (t : ThreadId) :
    (r.query t).result = (r.lookup t).map r.infoAt := by
  cases hl : r.lookup t <;> simp [query, withRecord, hl, Except.map]

theorem result_write (r : Registry) (t : ThreadId) (w : Write) :
    (r.write t w).result = (r.lookup t).map fun _ => () := by
  cases hl : r.lookup t <;> simp [write, withRecord, hl, Except.map]

/-! ### All questions at once -/

/-- Every question about membership is answered for the threads of `live`. -/
structure HasMembers (r : Registry) (live : ThreadId → Prop) : Prop where
  contains : ∀ t, r.contains t = .ok true ↔ live t
  not_contains : ∀ t, r.contains t = .ok false ↔ ¬ live t
  lookup : ∀ t, (∃ ref, r.lookup t = .ok ref) ↔ live t
  query : ∀ t, (∃ i, (r.query t).result = .ok i) ↔ live t
  write : ∀ t w, (r.write t w).result = .ok () ↔ live t
  /-- The list of threads is strictly ascending, has exactly the threads of `live`,
      and the number of threads is its length.  It is the same in whatever order the
      table meets its entries. -/
  threads : ∃ ts, r.threads = .ok ts ∧ ts.Pairwise (· < ·) ∧ (∀ t, t ∈ ts ↔ live t) ∧
    r.size = .ok ts.length ∧ ∀ found, r.Enumerates found → threadsOf found = ts
  isEmpty : r.isEmpty = .ok true ↔ ∀ t, ¬ live t
  not_isEmpty : r.isEmpty = .ok false ↔ ∃ t, live t

section
variable {r : Registry}

theorem lock_of_usable (hp : r.table.poisoned = false) : r.table.lock = .ok r.table.value :=
  Guarded.lock_eq_ok_iff.mpr ⟨hp, rfl⟩

theorem contains_of_usable (hp : r.table.poisoned = false) (t : ThreadId) :
    r.contains t = .ok (r.ref? t).isSome := by
  simp [contains, lock_of_usable hp, Except.map, ref?,
    Std.ExtTreeMap.isSome_getElem?_eq_contains]

theorem exists_lookup_iff (hp : r.table.poisoned = false) (t : ThreadId) :
    (∃ ref, r.lookup t = .ok ref) ↔ (r.ref? t).isSome = true := by
  simp [lookup_eq_ok_iff, hp, Option.isSome_iff_exists]

theorem threads_of_usable (hp : r.table.poisoned = false) :
    r.threads = .ok (threadsOf r.table.value.toList) := by
  simp [threads, entries, lock_of_usable hp, Except.map]

theorem size_of_usable (hp : r.table.poisoned = false) : r.size = .ok r.table.value.size := by
  simp [size, lock_of_usable hp, Except.map]

theorem isEmpty_of_usable (hp : r.table.poisoned = false) :
    r.isEmpty = .ok r.table.value.isEmpty := by
  simp [isEmpty, lock_of_usable hp, Except.map]

/-- **On a usable table all questions about membership agree**: registered are the
    threads for which the table has a reference. -/
theorem hasMembers_of_usable (hp : r.table.poisoned = false) :
    r.HasMembers fun t => (r.ref? t).isSome = true where
  contains t := by simp [contains_of_usable hp]
  not_contains t := by simp [contains_of_usable hp]
  lookup t := exists_lookup_iff hp t
  query t := by
    rw [← exists_lookup_iff hp t, result_query]
    cases r.lookup t <;> simp [Except.map]
  write t w := by
    rw [← exists_lookup_iff hp t, result_write]
    cases r.lookup t <;> simp [Except.map]
  threads := by
    refine ⟨_, threads_of_usable hp, pairwise_threadsOf _, mem_threadsOf_iff _, ?_, ?_⟩
    · rw [size_of_usable hp, length_threadsOf]
    · intro found hfound
      exact threadsOf_eq_of_perm hfound
  isEmpty := by
    rw [isEmpty_of_usable hp, Except.ok.injEq]
    exact isEmpty_table_iff _
  not_isEmpty := by
    rw [isEmpty_of_usable hp, Except.ok.injEq, ← Bool.not_eq_true, isEmpty_table_iff]
    simp [ref?]

end

end Registry

end FaultWatch

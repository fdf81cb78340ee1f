/-
  FaultWatch/Proofs/Session/Fleet.lean
  ====================================
  **Questions about all threads agree with questions about each.**

  Four questions are about all threads: which ones are registered, on which ones an
  exception is in flight, whether there is such a thread, and the same as a status code.
  In every registry that a caller can have, they agree with what a query of each thread
  says (`Registry.FleetAgrees`), in whatever order the entries of the table are met.  In
  particular the status code for all threads is the opposite of the one for each.

  Only the flags of registered records have a part in this
  (`Registry.SameFlags.sameFleet`).  So a catcher that is recorded, the lock of a record
  that is poisoned, and whatever is done with a record that was dropped, leave all four
  answers as they are.
-/
import FaultWatch.Proofs.Registry.Enumeration
import FaultWatch.Proofs.Registry.Members
import FaultWatch.Proofs.Session.Deed

namespace FaultWatch

/-! ### Status codes -/

theorem Info.status_eq_okFalse_iff (i : Info) : i.status = .okFalse ↔ i.pending = true := by
  have hne : HResult.ok ≠ HResult.okFalse := by decide
  cases hi : i.pending <;> simp [status, hi, hne]

theorem Info.status_eq_ok_iff (i : Info) : i.status = .ok ↔ i.pending = false := by
  have hne : HResult.okFalse ≠ HResult.ok := by decide
  cases hi : i.pending <;> simp [status, hi, hne]

theorem fleetStatus_eq_ok_iff (any : Bool) : fleetStatus any = .ok ↔ any = true := by
  cases any <;> decide

theorem fleetStatus_eq_okFalse_iff (any : Bool) : fleetStatus any = .okFalse ↔ any = false := by
  cases any <;> decide

/-! ### Entries in any order -/

theorem Store.anyPending_iff (s : Store) (found : List (ThreadId × RecordRef)) :
    s.anyPending found = true ↔ ∃ t, t ∈ s.pendingThreads found := by
  simp only [anyPending, pendingThreads, List.any_eq_true, (Handle.sort_perm _).mem_iff,
    List.mem_map, List.mem_filter]
  constructor
  · rintro ⟨entry, hmem, hflag⟩
    exact ⟨entry.1, entry, ⟨hmem, hflag⟩, rfl⟩
  · rintro ⟨-, entry, ⟨hmem, hflag⟩, -⟩
    exact ⟨entry, hmem, hflag⟩

namespace Registry

/-- Asked about the thread, the registry says that an exception is in flight on it. -/
def reportsPending (r : Registry) (t : ThreadId) : Bool :=
  match (r.query t).result with
  | .ok i => i.pending
  | .error _ => false

/-- The questions about all threads, if the entries are met in this order, and the
    queries of each thread agree. -/
structure FleetAgrees (r : Registry) (found : List (ThreadId × RecordRef)) : Prop where
  /-- Nobody can tell in what order the entries are met. -/
  threads : r.threads = .ok (threadsOf found)
  pendingThreads : r.pendingThreads = .ok (r.store.pendingThreads found)
  anyPending : r.anyPending = .ok (r.store.anyPending found)
  anyPendingStatus : r.anyPendingStatus = .ok (fleetStatus (r.store.anyPending found))
  /-- Listed are the threads that can be asked about, each once and ascending. -/
  ascending : (threadsOf found).Pairwise (· < ·)
  mem_threads_iff : ∀ t, t ∈ threadsOf found ↔ ∃ i, (r.query t).result = .ok i
  /-- An exception is in flight on those of them that say so, and they stay in order. -/
  pendingThreads_eq : r.store.pendingThreads found = (threadsOf found).filter r.reportsPending
  pending_ascending : (r.store.pendingThreads found).Pairwise (· < ·)
  /-- What counts is the flag of the registered record, whatever catcher is recorded and
      whether its lock is poisoned. -/
  mem_pendingThreads_iff : ∀ t, t ∈ r.store.pendingThreads found ↔
    ∃ ref, r.lookup t = .ok ref ∧ (r.store.get ref).value.pending = true
  anyPending_iff : r.store.anyPending found = true ↔ r.store.pendingThreads found ≠ []
  ok_iff : fleetStatus (r.store.anyPending found) = .ok ↔
    ∃ t ∈ threadsOf found, ∃ i, (r.query t).result = .ok i ∧ i.status = .okFalse
  okFalse_iff : fleetStatus (r.store.anyPending found) = .okFalse ↔
    ∀ t ∈ threadsOf found, ∀ i, (r.query t).result = .ok i → i.status = .ok

section

variable {r : Registry} {found : List (ThreadId × RecordRef)}

theorem entries_of_usable (hp : r.table.poisoned = false) :
    r.entries = .ok r.table.value.toList := by
  simp [entries, lock_of_usable hp, Except.map]

theorem result_query_eq_ok_iff (hp : r.table.poisoned = false) {t : ThreadId} {i : Info} :
    (r.query t).result = .ok i ↔ ∃ ref, r.ref? t = some ref ∧ r.infoAt ref = i := by
  rw [result_query, lookup_of_usable hp]
  cases r.ref? t <;> simp [Except.map]

theorem reportsPending_eq (hp : r.table.poisoned = false) {t : ThreadId} {ref : RecordRef}
    (href : r.ref? t = some ref) : r.reportsPending t = r.store.pendingAt ref := by
  rw [reportsPending, (result_query_eq_ok_iff hp).mpr ⟨ref, href, rfl⟩]
  rfl

/-- **The threads with an exception in flight are those that say so**, in the order of all
    threads. -/
theorem pendingThreads_eq_filter (hp : r.table.poisoned = false) (hfound : r.Enumerates found) :
    r.store.pendingThreads found = (threadsOf found).filter r.reportsPending := by
  have hflags : ∀ entry ∈ found, r.store.pendingAt entry.2 = r.reportsPending entry.1 := by
    intro entry hmem
    exact (reportsPending_eq hp ((hfound.mem_iff _ _).mp hmem)).symm
  rw [threadsOf, Handle.filter_sort, List.filter_map, Store.pendingThreads]
  exact congrArg (fun entries => Handle.sort (entries.map Prod.fst)) (List.filter_congr hflags)

theorem mem_threadsOf_found_iff (hp : r.table.poisoned = false) (hfound : r.Enumerates found)
    (t : ThreadId) : t ∈ threadsOf found ↔ ∃ i, (r.query t).result = .ok i := by
  rw [threadsOf_eq_of_perm hfound, mem_threadsOf_iff, Option.isSome_iff_exists]
  simp only [result_query_eq_ok_iff hp]
  constructor
  · rintro ⟨ref, href⟩
    exact ⟨r.infoAt ref, ref, href, rfl⟩
  · rintro ⟨-, ref, href, -⟩
    exact ⟨ref, href⟩

theorem mem_pendingThreads_found_iff (hp : r.table.poisoned = false)
    (hfound : r.Enumerates found) (t : ThreadId) :
    t ∈ r.store.pendingThreads found ↔
      ∃ i, (r.query t).result = .ok i ∧ i.pending = true := by
  rw [pendingThreads_eq_filter hp hfound, List.mem_filter, mem_threadsOf_found_iff hp hfound,
    reportsPending]
  constructor
  · rintro ⟨⟨i, hi⟩, hflag⟩
    rw [hi] at hflag
    exact ⟨i, hi, hflag⟩
  · rintro ⟨i, hi, hflag⟩
    rw [hi]
    exact ⟨⟨i, rfl⟩, hflag⟩

/-- **On a usable table the questions about all threads agree with those about each.** -/
theorem fleetAgrees_of_usable (hp : r.table.poisoned = false) (hfound : r.Enumerates found) :
    r.FleetAgrees found := by
  have hascending : (threadsOf found).Pairwise (· < ·) := by
    rw [threadsOf_eq_of_perm hfound]
    exact pairwise_threadsOf _
  have hpending := pendingThreads_eq_filter hp hfound
  have hmem := mem_pendingThreads_found_iff hp hfound
  have hany : r.anyPending = .ok (r.store.anyPending found) := by
    rw [Registry.anyPending, entries_of_usable hp, Store.anyPending_eq_of_perm _ hfound]
    rfl
  constructor
  · rw [Registry.threads, entries_of_usable hp, threadsOf_eq_of_perm hfound]
    rfl
  · rw [Registry.pendingThreads, entries_of_usable hp, Store.pendingThreads_eq_of_perm _ hfound]
    rfl
  · exact hany
  · rw [Registry.anyPendingStatus, hany]
    rfl
  · exact hascending
  · exact mem_threadsOf_found_iff hp hfound
  · exact hpending
  · rw [hpending]
    exact hascending.filter _
  · intro t
    rw [hmem]
    simp only [result_query_eq_ok_iff hp, lookup_eq_ok_iff, hp, true_and, infoAt,
      Record.info_eq_value]
    constructor
    · rintro ⟨-, ⟨ref, href, rfl⟩, hflag⟩
      exact ⟨ref, href, hflag⟩
    · rintro ⟨ref, href, hflag⟩
      exact ⟨_, ⟨ref, href, rfl⟩, hflag⟩
  · rw [Store.anyPending_iff, ← List.isEmpty_eq_false_iff_exists_mem, List.isEmpty_eq_false_iff]
  · rw [fleetStatus_eq_ok_iff, Store.anyPending_iff]
    simp only [hmem, Info.status_eq_okFalse_iff, mem_threadsOf_found_iff hp hfound]
    constructor
    · rintro ⟨t, i, hi, hflag⟩
      exact ⟨t, ⟨i, hi⟩, i, hi, hflag⟩
    · rintro ⟨t, -, i, hi, hflag⟩
      exact ⟨t, i, hi, hflag⟩
  · rw [fleetStatus_eq_okFalse_iff, ← Bool.not_eq_true, Store.anyPending_iff]
    simp only [hmem, Info.status_eq_ok_iff, mem_threadsOf_found_iff hp hfound]
    constructor
    · intro hnone t _ i hi
      rw [← Bool.not_eq_true]
      intro hflag
      exact hnone ⟨t, i, hi, hflag⟩
    · rintro hall ⟨t, i, hi, hflag⟩
      have hclear := hall t ⟨i, hi⟩ i hi
      rw [hclear] at hflag
      exact Bool.noConfusion hflag

end

/-! ### What has no part in it -/

variable {r : Registry} {ref : RecordRef} {a : Access}

/-- A use of a record that is not registered, or that leaves its flag as it is, leaves
    the flags of the table as they are. -/
theorem sameFlags_accessAt (hr : r.Sound) (h : ¬ r.Registers ref ∨
    (a.effect (r.store.get ref)).pending = (r.store.get ref).pending) :
    SameFlags (r.accessAt ref a) r := by
  refine ⟨rfl, ?_⟩
  intro t ref' href'
  rcases h with hnot | hflag
  · have hne : ref' ≠ ref := by
      rintro rfl
      exact hnot (hr.registers href')
    have hget : (r.accessAt ref a).store.get ref' = r.store.get ref' :=
      Store.get_modify_of_ne hne _
    rw [Store.pendingAt, Store.pendingAt, hget]
  · exact pendingAt_accessAt hflag ref'

end Registry

/-- **The questions about all threads agree with each other and with the queries of each
    thread**, in every registry that a caller can have, as long as the lock of the table
    is not poisoned, and in whatever order the entries are met.  Recorded catchers,
    poisoned records and dropped records have no part in the answers. -/
theorem fleet_agrees (c : Config) (steps : List Step)
    (hp : ((Registry.empty c).after steps).table.poisoned = false) :
    let r := (Registry.empty c).after steps
    (∀ found, r.Enumerates found → r.FleetAgrees found) ∧
    (∀ ref f, Registry.SameFleet (r.accessAt ref (.write (.setCatcher f))) r) ∧
    (∀ ref, Registry.SameFleet (r.accessAt ref .poison) r) ∧
    ∀ ref a, ¬ r.Registers ref → Registry.SameFleet (r.accessAt ref a) r := by
  intro r
  have hr : r.Sound := (Session.sound_run c steps).registry
  refine ⟨?_, ?_, ?_, ?_⟩
  · intro found hfound
    exact Registry.fleetAgrees_of_usable hp hfound
  · intro ref f
    have hflag := Access.pending_effect (a := .write (.setCatcher f)) (by simp) (by simp)
      (r.store.get ref)
    exact (Registry.sameFlags_accessAt hr (Or.inr hflag)).sameFleet
  · intro ref
    have hflag := Access.pending_effect (a := .poison) (by simp) (by simp) (r.store.get ref)
    exact (Registry.sameFlags_accessAt hr (Or.inr hflag)).sameFleet
  · intro ref a hnot
    exact (Registry.sameFlags_accessAt hr (Or.inl hnot)).sameFleet

/-- Exceptions are in flight on two threads of three.  The third one has a catcher
    recorded and died with the lock of its record, and a record that was dropped has
    its flag set. -/
def fleetRun : List Step :=
  [.call (.create ⟨9⟩), .call (.create ⟨3⟩), .keep ['k'] ⟨3⟩, .call (.create ⟨3⟩),
    .call (.create ⟨7⟩), .access ['k'] (.write .raise), .call (.write ⟨9⟩ .raise),
    .call (.dispatch (.exceptionThrown ⟨7⟩)), .call (.write ⟨3⟩ (.setCatcher ⟨42⟩)),
    .keep ['l'] ⟨3⟩, .access ['l'] .poison]

theorem fleet_agrees_mixed :
    ((Registry.empty {}).after fleetRun).table.poisoned = false ∧
    ((Registry.empty {}).after fleetRun).Enumerates
      [(⟨9⟩, ⟨⟨9⟩, 0⟩), (⟨3⟩, ⟨⟨3⟩, 1⟩), (⟨7⟩, ⟨⟨7⟩, 0⟩)] ∧
    ((Registry.empty {}).after fleetRun).threads = .ok [⟨3⟩, ⟨7⟩, ⟨9⟩] ∧
    ((Registry.empty {}).after fleetRun).pendingThreads = .ok [⟨7⟩, ⟨9⟩] ∧
    ((Registry.empty {}).after fleetRun).anyPendingStatus = .ok .ok ∧
    Registry.SameFleet (((Registry.empty {}).after fleetRun).accessAt ⟨⟨3⟩, 0⟩ (.write .clear))
      ((Registry.empty {}).after fleetRun) := by
  obtain ⟨hagrees, -, -, hdropped⟩ := fleet_agrees {} fleetRun (by decide)
  have hfound : ((Registry.empty {}).after fleetRun).Enumerates
      [(⟨9⟩, ⟨⟨9⟩, 0⟩), (⟨3⟩, ⟨⟨3⟩, 1⟩), (⟨7⟩, ⟨⟨7⟩, 0⟩)] := by
    unfold Registry.Enumerates
    decide
  have h := hagrees _ hfound
  refine ⟨by decide, hfound, ?_, ?_, ?_, hdropped _ _ (by decide)⟩
  · rw [h.threads]
    exact congrArg Except.ok (Handle.sort_eq_of_pairwise (by decide) (by decide))
  · rw [h.pendingThreads]
    exact congrArg Except.ok (Handle.sort_eq_of_pairwise (by decide) (by decide))
  · rw [h.anyPendingStatus]
    decide

end FaultWatch

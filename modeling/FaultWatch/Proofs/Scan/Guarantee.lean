/-
  FaultWatch/Proofs/Scan/Guarantee.lean
  =====================================
  **What the answer of a scan is worth.**

  While a scan goes through the records, their flags may change.  A flag that goes down
  on a record the scan has yet to come to, and up on one it has read, is never seen,
  although one of the two was up at every instant.  So an answer need not be true of any
  one instant, and all that can be relied on is about each thread by itself: a flag that
  is up all the time is seen, one that is down all the time is not, and what was seen was
  so at the instant of the read.

  `Scan.Course` says how a scan goes, whatever it is after.  `Scan.Search` and
  `Scan.Survey` say what its answer is worth if it looks for any flag, and if it looks
  for all of them.  If nobody writes in the meantime, the answers are those of a
  registry that is asked at one instant.
-/
import FaultWatch.Proofs.Scan.Basic
import FaultWatch.Proofs.Session.Fleet

namespace FaultWatch

namespace Scan

variable {aim : Aim} {r : Registry} {found : List (ThreadId × RecordRef)} {ticks : List Tick}

/-! ### The course of a scan -/

/-- How a scan of the entries goes, whatever it is after. -/
structure Course (aim : Aim) (r : Registry) (found : List (ThreadId × RecordRef))
    (ticks : List Tick) : Prop where
  /-- No use by others keeps it from its end. -/
  finishes : found.length ≤ ticks.count .read → ((start r found).run aim ticks).Finished aim
  /-- It reads the records by the order of the entries, none twice. -/
  ordered : ((start r found).readings aim ticks).map Reading.entry <+: found
  /-- It reads the records of threads that were registered when it started. -/
  registered : ∀ x ∈ (start r found).readings aim ticks, r.ref? x.thread = some x.entry.2
  under_way : ∀ x ∈ (start r found).readings aim ticks,
    x.registry ∈ (start r found).instants aim ticks
  table_eq : ∀ q ∈ (start r found).instants aim ticks, q.table = r.table
  /-- It changes no record: the registry is as the uses by others leave it. -/
  registry_eq : ((start r found).run aim ticks).registry =
    (ticks.filterMap Tick.use?).foldl (fun q u => q.accessAt u.1 u.2) r

theorem course (hfound : r.Enumerates found) (aim : Aim) (ticks : List Tick) :
    Course aim r found ticks := by
  have hordered : ((start r found).readings aim ticks).map Reading.entry <+: found :=
    ⟨_, (unread_run aim (start r found) ticks).symm⟩
  refine ⟨fun hreads => finished_run hreads, hordered, ?_, ?_, ?_, registry_run aim _ ticks⟩
  · intro x hx
    have hmem : x.entry ∈ found := hordered.subset (List.mem_map_of_mem hx)
    exact (hfound.mem_iff _ _).mp hmem
  · intro x hx
    exact registry_mem_instants hx
  · intro q hq
    exact table_of_mem_instants hq

/-! ### Threads that are met -/

theorem mem_met_iff (aim : Aim) (r : Registry) (found : List (ThreadId × RecordRef))
    (ticks : List Tick) (t : ThreadId) :
    t ∈ ((start r found).run aim ticks).met ↔
      ∃ x ∈ (start r found).readings aim ticks, x.thread = t ∧ x.flag = true := by
  rw [met_run]
  simp only [start, List.nil_append, List.mem_map, List.mem_filter]
  constructor
  · rintro ⟨x, ⟨hx, hflag⟩, ht⟩
    exact ⟨x, hx, ht, hflag⟩
  · rintro ⟨x, hx, ht, hflag⟩
    exact ⟨x, ⟨hx, hflag⟩, ht⟩

/-- **A scan that ends with nothing left to find has read every record.** -/
theorem readings_eq_found (hend : ((start r found).run aim ticks).Finished aim)
    (haim : aim = .all ∨ ((start r found).run aim ticks).met = []) :
    ((start r found).readings aim ticks).map Reading.entry = found := by
  have hread := unread_run aim (start r found) ticks
  rw [unread_of_finished hend haim, List.append_nil] at hread
  exact hread.symm

/-- **A flag that is set at every instant is found when its record is read.** -/
theorem mem_met_of_set (hend : ((start r found).run aim ticks).Finished aim)
    (haim : aim = .all ∨ ((start r found).run aim ticks).met = [])
    {t : ThreadId} {ref : RecordRef} (hmem : (t, ref) ∈ found)
    (hset : ∀ q ∈ (start r found).instants aim ticks, q.store.pendingAt ref = true) :
    t ∈ ((start r found).run aim ticks).met := by
  rw [← readings_eq_found hend haim, List.mem_map] at hmem
  obtain ⟨x, hx, hentry⟩ := hmem
  have hflag : x.registry.store.pendingAt ref = true := hset _ (registry_mem_instants hx)
  rw [mem_met_iff]
  exact ⟨x, hx, congrArg Prod.fst hentry, by rwa [Reading.flag, hentry]⟩

theorem met_of_quiet (hend : ((start r found).run aim ticks).Finished aim)
    (haim : aim = .all ∨ ((start r found).run aim ticks).met = [])
    (hquiet : ∀ ref w, .use ref (.write w) ∉ ticks) :
    ((start r found).run aim ticks).met =
      (found.filter fun entry => r.store.pendingAt entry.2).map Prod.fst := by
  have hflags : ∀ x ∈ (start r found).readings aim ticks,
      x.flag = r.store.pendingAt x.entry.2 := by
    intro x hx
    exact pendingAt_of_mem_instants hquiet (registry_mem_instants hx) x.entry.2
  have hread := readings_eq_found hend haim
  calc ((start r found).run aim ticks).met
      = (((start r found).readings aim ticks).filter Reading.flag).map Reading.thread := by
        rw [met_run]
        rfl
    _ = (((start r found).readings aim ticks).filter
          fun x => r.store.pendingAt x.entry.2).map Reading.thread := by
        rw [List.filter_congr hflags]
    _ = ((((start r found).readings aim ticks).map Reading.entry).filter
          fun entry => r.store.pendingAt entry.2).map Prod.fst := by
        rw [List.filter_map, List.map_map]
        rfl
    _ = (found.filter fun entry => r.store.pendingAt entry.2).map Prod.fst := by
        rw [hread]

/-! ### Looking for any flag -/

/-- What it is worth if a scan finds a flag set, or finds none. -/
structure Search (r : Registry) (found : List (ThreadId × RecordRef)) (ticks : List Tick) :
    Prop where
  /-- A flag that is set at every instant is not missed. -/
  of_set : ((start r found).run .any ticks).Finished .any →
    ∀ t ref, r.ref? t = some ref →
      (∀ q ∈ (start r found).instants .any ticks, q.store.pendingAt ref = true) →
        ((start r found).run .any ticks).anyPending = true
  /-- A flag that was found was set at the instant it was read. -/
  anyPending_iff : ((start r found).run .any ticks).anyPending = true ↔
    ∃ x ∈ (start r found).readings .any ticks, x.flag = true
  /-- If none was found, each record was read. -/
  of_not : ((start r found).run .any ticks).Finished .any →
    ((start r found).run .any ticks).anyPending = false →
      ((start r found).readings .any ticks).map Reading.entry = found
  /-- If nobody writes, it is the answer of a single instant. -/
  of_quiet : ((start r found).run .any ticks).Finished .any →
    (∀ ref w, .use ref (.write w) ∉ ticks) →
      r.anyPending = .ok ((start r found).run .any ticks).anyPending

theorem anyPending_eq_true_iff (s : Scan) : s.anyPending = true ↔ ∃ t, t ∈ s.met := by
  rw [anyPending, Bool.not_eq_true', List.isEmpty_eq_false_iff_exists_mem]

theorem anyPending_eq_false_iff (s : Scan) : s.anyPending = false ↔ s.met = [] := by
  simp [anyPending]

theorem search (hp : r.table.poisoned = false) (hfound : r.Enumerates found)
    (ticks : List Tick) : Search r found ticks := by
  have hiff : ((start r found).run .any ticks).anyPending = true ↔
      ∃ x ∈ (start r found).readings .any ticks, x.flag = true := by
    simp only [anyPending_eq_true_iff, mem_met_iff]
    constructor
    · rintro ⟨-, x, hx, -, hflag⟩
      exact ⟨x, hx, hflag⟩
    · rintro ⟨x, hx, hflag⟩
      exact ⟨x.thread, x, hx, rfl, hflag⟩
  refine ⟨?_, hiff, ?_, ?_⟩
  · intro hend t ref href hset
    rw [← Bool.not_eq_false, anyPending_eq_false_iff]
    intro hmet
    -- a search that met nobody has read this record too
    have hmem := mem_met_of_set hend (Or.inr hmet) ((hfound.mem_iff t ref).mpr href) hset
    rw [hmet] at hmem
    exact List.not_mem_nil hmem
  · intro hend hnone
    exact readings_eq_found hend (Or.inr ((anyPending_eq_false_iff _).mp hnone))
  · intro hend hquiet
    rw [(Registry.fleetAgrees_of_usable hp hfound).anyPending, Except.ok.injEq, Store.anyPending]
    cases hany : ((start r found).run .any ticks).anyPending with
    | false =>
      have hmet := (anyPending_eq_false_iff _).mp hany
      have hnone := met_of_quiet hend (Or.inr hmet) hquiet
      rw [hmet] at hnone
      simpa using hnone.symm
    | true =>
      obtain ⟨x, hx, hflag⟩ := hiff.mp hany
      have hset : r.store.pendingAt x.entry.2 = true := by
        rw [← hflag]
        exact (pendingAt_of_mem_instants hquiet (registry_mem_instants hx) x.entry.2).symm
      have hmem : x.entry ∈ found :=
        (course hfound .any ticks).ordered.subset (List.mem_map_of_mem hx)
      exact List.any_eq_true.mpr ⟨x.entry, hmem, hset⟩

/-! ### Looking for all flags -/

/-- What it is worth if a scan lists a thread, or does not. -/
structure Survey (r : Registry) (found : List (ThreadId × RecordRef)) (ticks : List Tick) :
    Prop where
  /-- A thread whose flag is set at every instant is listed. -/
  of_set : ((start r found).run .all ticks).Finished .all →
    ∀ t ref, r.ref? t = some ref →
      (∀ q ∈ (start r found).instants .all ticks, q.store.pendingAt ref = true) →
        t ∈ ((start r found).run .all ticks).pendingThreads
  /-- A thread is listed if its flag was set at the instant it was read. -/
  mem_iff : ∀ t, t ∈ ((start r found).run .all ticks).pendingThreads ↔
    ∃ x ∈ (start r found).readings .all ticks, x.thread = t ∧ x.flag = true
  /-- A thread whose flag is clear at every instant is not listed. -/
  of_clear : ∀ t ref, r.ref? t = some ref →
    (∀ q ∈ (start r found).instants .all ticks, q.store.pendingAt ref = false) →
      t ∉ ((start r found).run .all ticks).pendingThreads
  ascending : ((start r found).run .all ticks).pendingThreads.Pairwise (· < ·)
  /-- Each record was read, if the scan is at its end. -/
  complete : ((start r found).run .all ticks).Finished .all →
    ((start r found).readings .all ticks).map Reading.entry = found
  /-- If nobody writes, it is the list of a single instant. -/
  of_quiet : ((start r found).run .all ticks).Finished .all →
    (∀ ref w, .use ref (.write w) ∉ ticks) →
      r.pendingThreads = .ok ((start r found).run .all ticks).pendingThreads

theorem mem_pendingThreads_iff (s : Scan) (t : ThreadId) : t ∈ s.pendingThreads ↔ t ∈ s.met :=
  (Handle.sort_perm s.met).mem_iff

theorem nodup_met (hfound : r.Enumerates found) (aim : Aim) (ticks : List Tick) :
    ((start r found).run aim ticks).met.Nodup := by
  have hthreads : ((start r found).readings aim ticks).map Reading.thread <+:
      found.map Prod.fst := by
    have h := (course hfound aim ticks).ordered.map Prod.fst
    rwa [List.map_map] at h
  have hnodup := hfound.nodup.sublist hthreads.sublist
  rw [met_run]
  exact hnodup.sublist (List.filter_sublist.map Reading.thread)

theorem survey (hp : r.table.poisoned = false) (hfound : r.Enumerates found)
    (ticks : List Tick) : Survey r found ticks := by
  have hmem : ∀ t, t ∈ ((start r found).run .all ticks).pendingThreads ↔
      ∃ x ∈ (start r found).readings .all ticks, x.thread = t ∧ x.flag = true := by
    intro t
    rw [mem_pendingThreads_iff, mem_met_iff]
  refine ⟨?_, hmem, ?_, ?_, ?_, ?_⟩
  · intro hend t ref href hset
    rw [mem_pendingThreads_iff]
    exact mem_met_of_set hend (Or.inl rfl) ((hfound.mem_iff t ref).mpr href) hset
  · intro t ref href hclear hlisted
    obtain ⟨x, hx, rfl, hflag⟩ := (hmem t).mp hlisted
    have hsame : some x.entry.2 = some ref :=
      ((course hfound .all ticks).registered x hx).symm.trans href
    rw [Reading.flag, Option.some.inj hsame, hclear _ (registry_mem_instants hx)] at hflag
    exact Bool.noConfusion hflag
  · exact Handle.pairwise_lt_sort (nodup_met hfound .all ticks)
  · intro hend
    exact readings_eq_found hend (Or.inl rfl)
  · intro hend hquiet
    rw [(Registry.fleetAgrees_of_usable hp hfound).pendingThreads, pendingThreads,
      met_of_quiet hend (Or.inl rfl) hquiet]
    rfl

end Scan

/-! ### Both -/

/-- **What a scan can be relied on for**, in every registry whose table can be used, in
    whatever order the entries are met, and whatever is done with the records before,
    between and after the reads. -/
theorem scan_guarantees {r : Registry} (hp : r.table.poisoned = false)
    {found : List (ThreadId × RecordRef)} (hfound : r.Enumerates found) (ticks : List Tick) :
    (∀ aim, Scan.Course aim r found ticks) ∧ Scan.Search r found ticks ∧
      Scan.Survey r found ticks :=
  ⟨fun aim => Scan.course hfound aim ticks, Scan.search hp hfound ticks,
    Scan.survey hp hfound ticks⟩

/-- Exceptions are in flight on two threads of three. -/
def scannedRun : List Step :=
  [.call (.create ⟨9⟩), .call (.create ⟨3⟩), .call (.create ⟨7⟩), .call (.write ⟨3⟩ .raise),
    .call (.write ⟨7⟩ .raise)]

/-- An order in which the entries may be met. -/
def scannedEntries : List (ThreadId × RecordRef) :=
  [(⟨9⟩, ⟨⟨9⟩, 0⟩), (⟨3⟩, ⟨⟨3⟩, 0⟩), (⟨7⟩, ⟨⟨7⟩, 0⟩)]

/-- After the first read, a flag moves from the last record to the first. -/
def movingTicks : List Tick :=
  [.read, .use ⟨⟨9⟩, 0⟩ (.write .raise), .use ⟨⟨7⟩, 0⟩ (.write .clear), .read, .read]

theorem scan_guarantees_moving :
    ((Registry.empty {}).after scannedRun).table.poisoned = false ∧
    ((Registry.empty {}).after scannedRun).Enumerates scannedEntries ∧
    ((Scan.start ((Registry.empty {}).after scannedRun) scannedEntries).run .any
      movingTicks).anyPending = true ∧
    ⟨3⟩ ∈ ((Scan.start ((Registry.empty {}).after scannedRun) scannedEntries).run .all
      movingTicks).pendingThreads := by
  have hp : ((Registry.empty {}).after scannedRun).table.poisoned = false := by decide
  have hfound : ((Registry.empty {}).after scannedRun).Enumerates scannedEntries := by
    unfold Registry.Enumerates
    decide
  obtain ⟨hcourse, hsearch, hsurvey⟩ := scan_guarantees hp hfound movingTicks
  refine ⟨hp, hfound, ?_, ?_⟩
  · exact hsearch.of_set ((hcourse .any).finishes (by decide)) ⟨3⟩ ⟨⟨3⟩, 0⟩ (by decide) (by decide)
  · exact hsurvey.of_set ((hcourse .all).finishes (by decide)) ⟨3⟩ ⟨⟨3⟩, 0⟩ (by decide) (by decide)

/-- One of the other two flags is set at every instant, and yet neither is found. -/
example :
    let s := Scan.start ((Registry.empty {}).after scannedRun) scannedEntries
    (∀ q ∈ s.instants .all movingTicks,
      q.store.pendingAt ⟨⟨9⟩, 0⟩ = true ∨ q.store.pendingAt ⟨⟨7⟩, 0⟩ = true) ∧
    (s.run .all movingTicks).pendingThreads = [⟨3⟩] := by
  refine ⟨by decide, ?_⟩
  exact Handle.sort_eq_of_pairwise (by decide) (by decide)

end FaultWatch

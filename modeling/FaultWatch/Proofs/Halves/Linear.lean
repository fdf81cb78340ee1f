/-
  FaultWatch/Proofs/Halves/Linear.lean
  ====================================
  **The sequential order of a schedule.**

  The moments of a schedule, one after another, are an order in which the operations
  can be done as whole ones.  This is a simulation: after each moment the registry
  of the sequential run mirrors that of the schedule at all registered records.  An
  entry is taken in two parts.  First the operations that it makes late are done, of
  which only dropped records can tell (`mirrors_late`); then the entry itself, if it
  takes effect (`mirrors_own`).
-/
import FaultWatch.Proofs.Halves.Moments

namespace FaultWatch

namespace Traffic

variable {ι : Type} [DecidableEq ι] {ops : ι → Operation} {s s' fin : Traffic ι} {i j : ι}
  {q : Registry}

/-! ### The operations that an entry makes late -/

def DroppedBy (s s' : Traffic ι) (ref : RecordRef) : Prop :=
  s.registry.Registers ref ∧ ¬ s'.registry.Registers ref

instance (s s' : Traffic ι) : DecidablePred (s.DroppedBy s') := fun ref =>
  inferInstanceAs (Decidable (s.registry.Registers ref ∧ ¬ s'.registry.Registers ref))

theorem registers_useAt {r : Registry} {ref ref' : RecordRef} {u : Use} :
    (r.useAt ref u).2.Registers ref' ↔ r.Registers ref' := by
  rw [Registry.Registers, (Registry.mirrors_useAt r ref u).ref?_eq]
  rfl

/-- Late are those that hold a dropped record. -/
theorem filter_takesEffect (h : Advance ops s i s') (hs : s.Sound ops) (rest : List ι) :
    (rest.filter fun j => j ≠ i && s.takesEffect s' j) =
      rest.filter (s'.holdsIn (s.DroppedBy s')) := by
  apply List.filter_congr
  intro j _
  by_cases hij : j = i
  · subst hij
    rcases phase_self_cases h hs with ⟨-, ref, u, hholding, -, hregisters⟩ | ⟨result, hfinished⟩
    · simp [holdsIn, hholding, DroppedBy, hregisters]
    · simp [holdsIn, hfinished]
  · have hphase := phase_of_ne h hij
    cases hp : s.phase j with
    | waiting => simp [hij, takesEffect, tookEffect, holdsIn, hphase, hp]
    | holding ref u =>
      by_cases hbefore : s.registry.Registers ref <;>
        by_cases hafter : s'.registry.Registers ref <;>
        simp [hij, takesEffect, tookEffect, holdsIn, hphase, hp, DroppedBy, hbefore, hafter]
    | finished result => simp [hij, takesEffect, tookEffect, holdsIn, hphase, hp]

theorem infoAt_of_droppedBy (h : Advance ops s i s') (hs : s.Sound ops) {ref : RecordRef}
    (href : s.DroppedBy s' ref) : s'.registry.infoAt ref = s.registry.infoAt ref := by
  apply infoAt_advance h hs
  intro u hphase
  -- an entry that uses a record does not touch the table
  cases h with
  | used hused => exact href.2 (registers_useAt.mpr href.1)
  | whole hwaiting | found hwaiting | missed hwaiting =>
    rw [hwaiting] at hphase
    simp at hphase

/-- The late operations get their results, and only dropped records can tell that
    they have been done. -/
theorem mirrors_late {rest : List ι} (hs : s.Sound ops) (h : Advance ops s i s')
    (hq : Registry.Mirrors s.registry.Registers q s.registry)
    (hrest : run? ops s' rest = some fin) :
    let late := rest.filter fun j => j ≠ i && s.takesEffect s' j
    (∀ entry ∈ q.results ops late, fin.phase entry.1 = .finished entry.2) ∧
    Registry.Mirrors (fun ref => s.registry.Registers ref ∧ s'.registry.Registers ref)
      (q.afterOps ops late) s.registry := by
  intro late
  have hholds : ∀ ref, s.DroppedBy s' ref → s.registry.store.Holds ref := fun ref href =>
    hs.registry.holds href.1
  have hdropped : s'.Dropped (s.DroppedBy s') := fun ref href =>
    ⟨holds_advance h hs (hholds ref href), href.2⟩
  have husable : q.table.poisoned = false := by
    rw [hq.table]
    exact hs.usable
  have hregisters : ∀ ref, s.DroppedBy s' ref → q.Registers ref ∧ q.store.Holds ref := by
    intro ref href
    rw [Registry.Registers, hq.ref?_eq, hq.holds_iff]
    exact ⟨href.1, hholds ref href⟩
  have hknown : ∀ ref, s.DroppedBy s' ref → q.infoAt ref = s'.registry.infoAt ref := by
    intro ref href
    rw [infoAt_of_droppedBy h hs href]
    exact hq.known ref href.1
  obtain ⟨hresults, hmirrors⟩ :=
    results_late (hs.advance h) hdropped husable hregisters hknown hrest
  rw [← filter_takesEffect h hs] at hresults hmirrors
  refine ⟨hresults, ?_⟩
  refine (hmirrors.mono ?_).trans (hq.mono fun ref href => href.1)
  intro ref href hdroppedBy
  exact hdroppedBy.2 href.2

/-! ### The entry itself -/

/-- The entry, if it takes effect, is done as a whole with the same result. -/
theorem mirrors_own (hs : s.Sound ops) (h : Advance ops s i s')
    (hq : Registry.Mirrors (fun ref => s.registry.Registers ref ∧ s'.registry.Registers ref)
      q s.registry) :
    let own := if s.takesEffect s' i then [i] else []
    (∀ entry ∈ q.results ops own, s'.phase entry.1 = .finished entry.2) ∧
    Registry.Mirrors s'.registry.Registers (q.afterOps ops own) s'.registry := by
  intro own
  have husable : q.table.poisoned = false := by
    rw [hq.table]
    exact hs.usable
  cases h with
  | @whole ch hphase hop =>
    have hown : own = [i] := by simp [own, takesEffect, tookEffect, hphase]
    have hrun := Registry.run_whole hs.usable hop
    have hrunq := Registry.run_whole husable hop
    rw [hown]
    constructor
    · simp [Registry.results, hrun.1, hrunq.1]
    · rw [registry_put, hrun.2] at hq ⊢
      rw [Registry.afterOps_cons, Registry.afterOps_nil, hrunq.2]
      exact hq.apply_whole hop fun ref hbefore hafter => ⟨hbefore, hafter⟩
  | @found t u ref hphase hop hlookup =>
    have href := hs.registry.registers (Registry.lookup_eq_ok_iff.mp hlookup).2
    have hown : own = [] := by simp [own, takesEffect, tookEffect, hphase, href]
    rw [hown]
    exact ⟨by simp [Registry.results], hq.mono fun ref href => ⟨href, href⟩⟩
  | @missed t u f hphase hop hlookup =>
    have hown : own = [i] := by simp [own, takesEffect, tookEffect, hphase]
    have hrun : (ops i).call.run q = ⟨.error f, q, [.failed f]⟩ := by
      rw [hop, Registry.run_use, hq.lookup_eq, hlookup]
    rw [hown]
    refine ⟨by simp [Registry.results, hrun], ?_⟩
    rw [Registry.afterOps_cons, Registry.afterOps_nil, hrun]
    exact hq.mono fun ref href => ⟨href, href⟩
  | @used ref u hphase =>
    obtain ⟨hholds, hop⟩ := hs.held hphase
    by_cases href : s.registry.Registers ref
    · have hown : own = [i] := by simp [own, takesEffect, tookEffect, hphase, href]
      have hafter : (s.registry.useAt ref u).2.Registers ref := registers_useAt.mpr href
      have hregistersq : q.Registers ref := by
        rw [Registry.Registers, hq.ref?_eq]
        exact href
      have hrun := run_use_registered (u := u) husable hregistersq
      rw [← hop] at hrun
      obtain ⟨hanswer, hboth⟩ := hq.useAt_both ⟨href, hafter⟩ hholds u
      rw [hown]
      refine ⟨by simp [Registry.results, hrun.1, hanswer], ?_⟩
      rw [Registry.afterOps_cons, Registry.afterOps_nil, hrun.2]
      exact hboth.mono fun ref' href' => ⟨registers_useAt.mp href', href'⟩
    · have hown : own = [] := by simp [own, takesEffect, tookEffect, hphase, href]
      rw [hown]
      refine ⟨by simp [Registry.results], ?_⟩
      have hnot : ¬ (s.registry.Registers ref ∧
          (s.put i (.finished (.ok (s.registry.useAt ref u).1))
            (s.registry.useAt ref u).2).registry.Registers ref) := fun hboth => href hboth.1
      have hright := hq.useAt_right hnot u
      exact hright.mono fun ref' href' => ⟨registers_useAt.mp href', href'⟩

/-! ### The whole schedule -/

/-- **The moments, one after another, are a run of whole operations**: each gets the
    result that it gets by the schedule, and the registry mirrors the one of the
    schedule in the end. -/
theorem replay_moments {schedule : List ι} (hs : s.Sound ops)
    (hq : Registry.Mirrors s.registry.Registers q s.registry)
    (h : run? ops s schedule = some fin) :
    (∀ entry ∈ q.results ops (moments ops s schedule).flatten,
      fin.phase entry.1 = .finished entry.2) ∧
    Registry.Mirrors fin.registry.Registers
      (q.afterOps ops (moments ops s schedule).flatten) fin.registry := by
  induction schedule generalizing s q with
  | nil =>
    obtain rfl : s = fin := by simpa [run?] using h
    exact ⟨by simp [moments, Registry.results], hq⟩
  | cons i rest ih =>
    obtain ⟨s', hadvance, hs', hrest⟩ := run?_cons_eq_some h
    obtain ⟨hlate, hmirrors⟩ := mirrors_late hs hadvance hq hrest
    obtain ⟨hown, hmirrors'⟩ := mirrors_own hs hadvance hmirrors
    obtain ⟨hresults, hfinal⟩ := ih (hs.advance hadvance) hmirrors' hrest
    rw [moments_cons hs', List.flatten_cons, moment]
    constructor
    · intro entry hentry
      rw [Registry.results_append, Registry.results_append, List.mem_append,
        List.mem_append] at hentry
      rcases hentry with (hentry | hentry) | hentry
      · exact hlate entry hentry
      · exact (finished_run? (hown entry hentry) hrest).2
      · rw [Registry.afterOps_append] at hentry
        exact hresults entry hentry
    · rw [Registry.afterOps_append, Registry.afterOps_append]
      exact hfinal

end Traffic

/-! ### Linearizability -/

/-- The operations of a schedule, done as whole ones moment by moment, come to the
    same as the schedule. -/
structure Linearizes {ι : Type} [DecidableEq ι] (ops : ι → Operation) (r : Registry)
    (schedule : List ι) (fin : Traffic ι) (moments : List (List ι)) : Prop where
  /-- There is one moment for each entry of the schedule. -/
  length_eq : moments.length = schedule.length
  /-- An operation has its moment at its only entry, or after its first half and not
      after its second. -/
  between : ∀ k m, moments[k]? = some m → ∀ i ∈ m, Traffic.Between schedule k i
  /-- Each operation of the schedule is done once. -/
  nodup : moments.flatten.Nodup
  mem_iff : ∀ i, i ∈ moments.flatten ↔ i ∈ schedule
  /-- It gets the result that it gets by the schedule. -/
  results : ∀ i result, (i, result) ∈ r.results ops moments.flatten ↔
    fin.phase i = .finished result
  /-- The same threads are registered in the end, and the same is known of them. -/
  overview : (r.afterOps ops moments.flatten).overview = fin.registry.overview

namespace Registry

theorem Mirrors.overview_eq {q r : Registry} (h : Mirrors r.Registers q r) (hr : r.Sound) :
    q.overview = r.overview := by
  rw [overview, overview, entries, entries, h.table]
  cases hlock : r.table.lock with
  | error f => rfl
  | ok table =>
    have hvalue : r.table.value = table := (Guarded.lock_eq_ok_iff.mp hlock).2
    simp only [Except.map, Except.ok.injEq]
    apply List.map_congr_left
    rintro ⟨t, ref⟩ hmem
    have href : r.ref? t = some ref := by
      rw [ref?, hvalue]
      exact Std.ExtTreeMap.mem_toList_iff_getElem?_eq_some.mp hmem
    simp only [h.known ref (hr.registers href)]

end Registry

/-- **Operations in two halves are linearizable.**  From any registry that a caller can
    have set up, whatever way the halves of operations are mixed, with each other and
    with threads that come and go: if all that began has finished, there is a
    sequential order of the whole operations with the same results and the same end,
    and each operation has its place between its two halves. -/
theorem exists_sequential_order {ι : Type} [DecidableEq ι] (c : Config) (setup : List Step)
    (hp : .poison ∉ setup) (ops : ι → Operation) (schedule : List ι) (fin : Traffic ι)
    (hrun : (Traffic.start ((Registry.empty c).after setup)).run? ops schedule = some fin)
    (hfin : fin.Settled) :
    ∃ moments, Linearizes ops ((Registry.empty c).after setup) schedule fin moments := by
  have hsound : ((Registry.empty c).after setup).Sound := (Session.sound_run c setup).registry
  have husable : ((Registry.empty c).after setup).table.poisoned = false := by
    rw [Registry.after, poisoned_run]
    simpa using hp
  generalize (Registry.empty c).after setup = r at hrun hsound husable
  have hstart : (Traffic.start r : Traffic ι).Sound ops := Traffic.sound_start hsound husable
  have hcount := fun i => Traffic.count_moments (j := i) hstart hrun hfin
  have hwaiting : ∀ i, (Traffic.start r : Traffic ι).tookEffect i = false := fun _ => rfl
  obtain ⟨hresults, hmirrors⟩ :=
    Traffic.replay_moments hstart (Registry.Mirrors.refl _ r) hrun
  have hmem : ∀ i, i ∈ (Traffic.moments ops (Traffic.start r) schedule).flatten ↔
      i ∈ schedule := by
    intro i
    rw [← List.count_pos_iff, hcount i]
    by_cases hi : i ∈ schedule <;> simp [hwaiting, hi]
  refine ⟨Traffic.moments ops (Traffic.start r) schedule, ?_, ?_, ?_, hmem, ?_, ?_⟩
  · exact Traffic.length_moments hrun
  · intro k m hm i hi
    exact (Traffic.between_moments hstart hrun hfin hm hi).1 rfl
  · rw [List.nodup_iff_count]
    intro i
    rw [hcount i]
    split <;> omega
  · intro i result
    constructor
    · exact hresults (i, result)
    · intro hphase
      have hi : i ∈ schedule := by
        by_contra hnot
        rw [Traffic.phase_run?_of_not_mem hnot hrun] at hphase
        simp [Traffic.start] at hphase
      -- the operation has a result in the sequential run, and it has no other
      have hdone : i ∈ (r.results ops
          (Traffic.moments ops (Traffic.start r) schedule).flatten).map (·.1) := by
        rw [Registry.map_fst_results, hmem i]
        exact hi
      obtain ⟨⟨i', result'⟩, hentry, rfl⟩ := List.mem_map.mp hdone
      have heq := (hresults _ hentry).symm.trans hphase
      rw [← Phase.finished.inj heq]
      exact hentry
  · refine hmirrors.overview_eq ?_
    exact (Traffic.sound_run? hstart hrun).registry

/-- A write and a query that use the record of a thread after it was destroyed and
    created again, and a query that finds no record. -/
def lateUses : Fin 5 → Operation
  | 0 => .use ⟨7⟩ (.write .raise)
  | 1 => .use ⟨7⟩ .query
  | 2 => .destroy ⟨7⟩
  | 3 => .create ⟨7⟩
  | 4 => .use ⟨9⟩ .query

theorem exists_sequential_order_late :
    .poison ∉ [Step.call (.create ⟨7⟩)] ∧
    ∃ fin, (Traffic.start ((Registry.empty {}).after [.call (.create ⟨7⟩)])).run? lateUses
        [0, 1, 2, 3, 0, 1, 4] = some fin ∧
      fin.Settled ∧ fin.phase 1 = .finished (.ok (.info ⟨true, none⟩)) ∧
      ∃ moments, Linearizes lateUses ((Registry.empty {}).after [.call (.create ⟨7⟩)])
        [0, 1, 2, 3, 0, 1, 4] fin moments := by
  refine ⟨by decide, _, rfl, ?_, rfl, ?_⟩
  · intro i ref u
    match i with
    | 0 | 1 | 2 | 3 | 4 => nofun
  · refine exists_sequential_order {} _ (by decide) _ _ _ rfl ?_
    intro i ref u
    match i with
    | 0 | 1 | 2 | 3 | 4 => nofun

end FaultWatch

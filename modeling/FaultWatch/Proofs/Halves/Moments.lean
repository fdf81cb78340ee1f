/-
  FaultWatch/Proofs/Halves/Moments.lean
  =====================================
  **Operations in two halves are as good as whole ones.**

  Every schedule has a sequential order of its operations, each of them whole, with
  the same results and the same registered threads in the end
  (`exists_sequential_order`).  The order goes along the schedule: each entry has a
  *moment*, the list of the operations that take effect from the entry before it up
  to itself.

  When an operation takes effect cannot be told from what it has done so far:

    * an operation done at one stroke takes effect at its entry, and so does one that
      finds no record;
    * one that uses a registered record takes effect when it uses it;
    * one whose record is dropped before it is used takes effect just before the
      entry that drops it, together with all others that still hold such a record, in
      the order in which they are going to use it.

  All this is one rule (`Traffic.takesEffect`): an operation has taken effect as soon
  as nothing that it still does can be seen through the table.
-/
import FaultWatch.Proofs.Halves.Late
import FaultWatch.Proofs.Session.Deed

namespace FaultWatch

namespace Traffic

variable {ι : Type} [DecidableEq ι] {ops : ι → Operation} {s s' fin : Traffic ι} {i j : ι}

/-! ### When an operation takes effect -/

/-- Nothing that the operation still does can be seen through the table. -/
def tookEffect (s : Traffic ι) (j : ι) : Bool :=
  match s.phase j with
  | .waiting => false
  | .holding ref _ => ¬ s.registry.Registers ref
  | .finished _ => true

def takesEffect (s s' : Traffic ι) (j : ι) : Bool := !s.tookEffect j && s'.tookEffect j

/-- The operations that take effect before the entry `i` does, and then `i` if it takes
    effect itself.  `rest` has the entries after it. -/
def moment (s s' : Traffic ι) (i : ι) (rest : List ι) : List ι :=
  (rest.filter fun j => j ≠ i && s.takesEffect s' j) ++ if s.takesEffect s' i then [i] else []

/-- The moments of a schedule, one for each of its entries. -/
def moments (ops : ι → Operation) : Traffic ι → List ι → List (List ι)
  | _, [] => []
  | s, i :: rest =>
    match s.advance? ops i with
    | some s' => s.moment s' i rest :: moments ops s' rest
    | none => []

theorem moments_cons {rest : List ι} (h : s.advance? ops i = some s') :
    moments ops s (i :: rest) = s.moment s' i rest :: moments ops s' rest := by
  simp [moments, h]

theorem length_moments {schedule : List ι} (h : run? ops s schedule = some fin) :
    (moments ops s schedule).length = schedule.length := by
  induction schedule generalizing s with
  | nil => rfl
  | cons i rest ih =>
    obtain ⟨s', -, hs', hrest⟩ := run?_cons_eq_some h
    rw [moments_cons hs', List.length_cons, List.length_cons, ih hrest]

/-! ### The entry itself -/

/-- An operation that is named has either found a record that is registered, or has
    nothing left to do. -/
theorem phase_self_cases (h : Advance ops s i s') (hs : s.Sound ops) :
    (s.phase i = .waiting ∧ ∃ ref u, s'.phase i = .holding ref u ∧
      s'.registry = s.registry ∧ s'.registry.Registers ref) ∨
    ∃ result, s'.phase i = .finished result := by
  cases h with
  | @found t u ref hphase hop hlookup =>
    left
    refine ⟨hphase, ref, u, phase_put_self .., rfl, ?_⟩
    exact hs.registry.registers (Registry.lookup_eq_ok_iff.mp hlookup).2
  | whole | missed | used => exact Or.inr ⟨_, phase_put_self ..⟩

omit [DecidableEq ι] in
theorem tookEffect_of_finished {result : Except Failure Answer}
    (h : s.phase j = .finished result) : s.tookEffect j = true := by
  simp [tookEffect, h]

omit [DecidableEq ι] in
theorem tookEffect_of_waiting (h : s.phase j = .waiting) : s.tookEffect j = false := by
  simp [tookEffect, h]

omit [DecidableEq ι] in
theorem tookEffect_of_holding {ref : RecordRef} {u : Use} (h : s.phase j = .holding ref u) :
    s.tookEffect j = true ↔ ¬ s.registry.Registers ref := by
  simp [tookEffect, h]

/-- What has taken effect stays so. -/
theorem tookEffect_advance (h : Advance ops s i s') (hs : s.Sound ops)
    (hj : s.tookEffect j = true) : s'.tookEffect j = true := by
  by_cases hij : j = i
  · subst hij
    rcases phase_self_cases h hs with ⟨hwaiting, -⟩ | ⟨result, hfinished⟩
    · simp [tookEffect_of_waiting hwaiting] at hj
    · exact tookEffect_of_finished hfinished
  · have hphase := phase_of_ne h hij
    cases hp : s.phase j with
    | waiting => simp [tookEffect_of_waiting hp] at hj
    | holding ref u =>
      obtain ⟨ch, -, hregistry⟩ := registry_advance h hs
      rw [tookEffect_of_holding hp] at hj
      rw [tookEffect_of_holding (hphase.trans hp), hregistry]
      exact Registry.not_registers_apply (hs.held hp).1 hj ch
    | finished result => exact tookEffect_of_finished (hphase.trans hp)

/-! ### Every operation takes effect once -/

theorem count_moment (rest : List ι) :
    (s.moment s' i rest).count j =
      if s.takesEffect s' j then (if j = i then 1 else rest.count j) else 0 := by
  rw [moment, List.count_append]
  by_cases hij : j = i
  · subst hij
    have hnot : j ∉ rest.filter fun k => k ≠ j && s.takesEffect s' k := by simp
    rw [List.count_eq_zero.mpr hnot]
    cases s.takesEffect s' j <;> simp
  · have hown : (if s.takesEffect s' i then [i] else []).count j = 0 := by
      rw [List.count_eq_zero]
      cases s.takesEffect s' i <;> simp [hij]
    rw [hown, if_neg hij]
    cases hj : s.takesEffect s' j with
    | true => simp [List.count_filter, hij, hj]
    | false => simp [List.count_eq_zero, hj]

theorem count_moments {schedule : List ι} (hs : s.Sound ops)
    (h : run? ops s schedule = some fin) (hfin : fin.Settled) :
    (moments ops s schedule).flatten.count j =
      if s.tookEffect j = false ∧ j ∈ schedule then 1 else 0 := by
  induction schedule generalizing s with
  | nil => simp [moments]
  | cons i rest ih =>
    obtain ⟨s', hadvance, hs', hrest⟩ := run?_cons_eq_some h
    rw [moments_cons hs', List.flatten_cons, List.count_append, count_moment,
      ih (hs.advance hadvance) hrest, takesEffect]
    cases hbefore : s.tookEffect j with
    | true => simp [tookEffect_advance hadvance hs hbefore]
    | false =>
      by_cases hij : j = i
      · subst hij
        rcases phase_self_cases hadvance hs with
          ⟨-, ref, u, hholding, -, hregisters⟩ | ⟨result, hfinished⟩
        · -- it has found its record, so it is named once more
          have hafter : s'.tookEffect j = false := by
            rw [← Bool.not_eq_true, tookEffect_of_holding hholding]
            simpa using hregisters
          have hmem : j ∈ rest := by
            by_contra hnot
            exact hfin j ref u ((phase_run?_of_not_mem hnot hrest).trans hholding)
          simp [hafter, hmem]
        · simp [tookEffect_of_finished hfinished]
      · cases hafter : s'.tookEffect j with
        | false => simp [hij]
        | true =>
          -- the operation holds a record that the entry has dropped
          obtain ⟨ref, u, hholding⟩ : ∃ ref u, s.phase j = .holding ref u := by
            have hphase := phase_of_ne hadvance hij
            cases hp : s.phase j with
            | waiting => simp [tookEffect_of_waiting (hphase.trans hp)] at hafter
            | holding ref u => exact ⟨ref, u, rfl⟩
            | finished result => simp [tookEffect_of_finished hp] at hbefore
          have hle : rest.count j ≤ 1 :=
            count_le_one_of_holding ((phase_of_ne hadvance hij).trans hholding) hrest
          have hpos : j ∈ rest ↔ 0 < rest.count j := List.count_pos_iff.symm
          by_cases hmem : j ∈ rest
          · have hone : rest.count j = 1 := Nat.le_antisymm hle (hpos.mp hmem)
            simp [hij, hmem, hone]
          · simp [hij, hmem, List.count_eq_zero.mpr hmem]

/-! ### Every operation takes effect in its own time -/

/-- An operation with one entry has its moment there; one with two entries has its
    moment after the first and not after the second. -/
def Between (schedule : List ι) (k : Nat) (j : ι) : Prop :=
  (schedule.count j = 1 ∧ schedule[k]? = some j) ∨ (j ∈ schedule.take k ∧ j ∈ schedule.drop k)

theorem between_cons {rest : List ι} {k : Nat} (hij : j ≠ i) (h : Between rest k j) :
    Between (i :: rest) (k + 1) j := by
  rcases h with ⟨hcount, hk⟩ | ⟨htake, hdrop⟩
  · left
    exact ⟨by rw [List.count_cons_of_ne (Ne.symm hij), hcount], by simpa using hk⟩
  · right
    exact ⟨by simp [htake], by simpa using hdrop⟩

theorem mem_moment_iff {rest : List ι} :
    j ∈ s.moment s' i rest ↔ s.takesEffect s' j = true ∧ (j ∈ rest ∨ j = i) := by
  by_cases hij : j = i
  · subst hij
    cases hj : s.takesEffect s' j <;> simp [moment, hj]
  · cases hi : s.takesEffect s' i <;> simp [moment, hij, hi, and_comm]

/-- The moment of an entry, seen from just before it. -/
theorem between_moment {rest : List ι} (hs : s.Sound ops) (hadvance : Advance ops s i s')
    (hrest : run? ops s' rest = some fin) (hj : j ∈ s.moment s' i rest) :
    (s.phase j = .waiting → Between (i :: rest) 0 j) ∧ j ∈ i :: rest := by
  obtain ⟨heffect, hmem⟩ := mem_moment_iff.mp hj
  obtain ⟨hbefore, hafter⟩ : s.tookEffect j = false ∧ s'.tookEffect j = true := by
    simpa [takesEffect] using heffect
  refine ⟨?_, by simpa [or_comm] using hmem⟩
  intro hwaiting
  by_cases hij : j = i
  · subst hij
    rcases phase_self_cases hadvance hs with
      ⟨-, ref, u, hholding, -, hregisters⟩ | ⟨result, hfinished⟩
    · exact absurd hregisters ((tookEffect_of_holding hholding).mp hafter)
    · have hnot := (finished_run? hfinished hrest).1
      exact Or.inl ⟨by simp [List.count_eq_zero.mpr hnot], rfl⟩
  · have hstill := (phase_of_ne hadvance hij).trans hwaiting
    simp [tookEffect_of_waiting hstill] at hafter

theorem between_moments {schedule : List ι} (hs : s.Sound ops)
    (h : run? ops s schedule = some fin) (hfin : fin.Settled) {k : Nat} {m : List ι}
    (hm : (moments ops s schedule)[k]? = some m) (hj : j ∈ m) :
    (s.phase j = .waiting → Between schedule k j) ∧
      ((∃ ref u, s.phase j = .holding ref u) → j ∈ schedule.drop k) := by
  induction schedule generalizing s k with
  | nil => simp [moments] at hm
  | cons i rest ih =>
    obtain ⟨s', hadvance, hs', hrest⟩ := run?_cons_eq_some h
    rw [moments_cons hs'] at hm
    cases k with
    | zero =>
      obtain rfl : s.moment s' i rest = m := by simpa using hm
      obtain ⟨hwaiting, hmem⟩ := between_moment hs hadvance hrest hj
      exact ⟨hwaiting, fun _ => hmem⟩
    | succ k =>
      have hlater : (moments ops s' rest)[k]? = some m := by simpa using hm
      obtain ⟨hwaiting, hholding⟩ := ih (hs.advance hadvance) hrest hlater
      by_cases hij : j = i
      · subst hij
        rcases phase_self_cases hadvance hs with
          ⟨hbefore, ref, u, hafter, -⟩ | ⟨result, hfinished⟩
        · -- its first half is the entry, its second half is still to come
          have hdrop := hholding ⟨ref, u, hafter⟩
          refine ⟨fun _ => Or.inr ⟨by simp, by simpa using hdrop⟩, ?_⟩
          rintro ⟨ref', u', hphase⟩
          rw [hbefore] at hphase
          simp at hphase
        · have hcount := count_moments (j := j) (hs.advance hadvance) hrest hfin
          have hmem : j ∈ (moments ops s' rest).flatten :=
            List.mem_flatten.mpr ⟨m, List.mem_of_getElem? hlater, hj⟩
          rw [tookEffect_of_finished hfinished, if_neg (by simp), List.count_eq_zero] at hcount
          exact absurd hmem hcount
      · have hphase := phase_of_ne hadvance hij
        refine ⟨fun hw => between_cons hij (hwaiting (hphase.trans hw)), ?_⟩
        rintro ⟨ref, u, hp⟩
        simpa using hholding ⟨ref, u, hphase.trans hp⟩

end Traffic

end FaultWatch

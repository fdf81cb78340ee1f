/-
  FaultWatch/Proofs/Halves/Late.lean
  ==================================
  **Operations that use a record after it was dropped.**

  An operation that has found its record and uses it after the thread has lost it
  is late.  Nobody can see through the table what it does, since the record is never
  registered again.  So it makes no difference if all late operations are done in
  one go, each as a whole, before the record is dropped, in the order in which they
  will use it: each gets the same result (`results_late`).

  The proof is by induction on the rest of the schedule.  The registry that is ahead
  agrees at the dropped records with the one that is not; using a record in both
  keeps this, and no other entry of the schedule reaches these records.
-/
import FaultWatch.Proofs.Halves.Mirror

namespace FaultWatch

/-! ### One operation after another -/

namespace Registry

variable {ι : Type}

/-- The results of the operations, each done as a whole, one after another. -/
def results (ops : ι → Operation) : Registry → List ι → List (ι × Except Failure Answer)
  | _, [] => []
  | r, i :: rest =>
    let reply := (ops i).call.run r
    (i, reply.result) :: results ops reply.registry rest

def afterOps (ops : ι → Operation) (r : Registry) (order : List ι) : Registry :=
  order.foldl (fun r i => ((ops i).call.run r).registry) r

variable {ops : ι → Operation}

@[simp] theorem afterOps_nil (r : Registry) : r.afterOps ops [] = r := rfl

@[simp] theorem afterOps_cons (r : Registry) (i : ι) (order : List ι) :
    r.afterOps ops (i :: order) = ((ops i).call.run r).registry.afterOps ops order := rfl

theorem afterOps_append (r : Registry) (xs ys : List ι) :
    r.afterOps ops (xs ++ ys) = (r.afterOps ops xs).afterOps ops ys := List.foldl_append

theorem results_append (r : Registry) (xs ys : List ι) :
    r.results ops (xs ++ ys) = r.results ops xs ++ (r.afterOps ops xs).results ops ys := by
  induction xs generalizing r with
  | nil => rfl
  | cons i xs ih => simp only [List.cons_append, results, ih, afterOps_cons]

theorem map_fst_results (r : Registry) (order : List ι) :
    (r.results ops order).map (·.1) = order := by
  induction order generalizing r with
  | nil => rfl
  | cons i order ih => simp [results, ih]

end Registry

namespace Traffic

variable {ι : Type} [DecidableEq ι] {ops : ι → Operation} {s s' fin : Traffic ι} {i j : ι}

/-! ### Soundness -/

/-- The registry is sound and its table usable; whoever holds a record has found it
    for the thread of its operation. -/
structure Sound (ops : ι → Operation) (s : Traffic ι) : Prop where
  registry : s.registry.Sound
  usable : s.registry.table.poisoned = false
  held : ∀ {i : ι} {ref : RecordRef} {u : Use}, s.phase i = .holding ref u →
    s.registry.store.Holds ref ∧ ops i = .use ref.thread u

omit [DecidableEq ι] in
theorem sound_start {r : Registry} (h : r.Sound) (hp : r.table.poisoned = false) :
    (start r : Traffic ι).Sound ops :=
  ⟨h, hp, by intro i ref u hphase; simp [start] at hphase⟩

theorem registry_advance (h : Advance ops s i s') (hs : s.Sound ops) :
    ∃ ch, ch ≠ .poison ∧ s'.registry = s.registry.apply ch := by
  cases h with
  | whole hphase hop =>
    refine ⟨_, ?_, (Registry.run_whole hs.usable hop).2⟩
    rintro rfl
    cases hi : ops i <;> simp [hi, Operation.change?] at hop
  | found hphase hop hlookup => exact ⟨.idle, by simp, rfl⟩
  | missed hphase hop hlookup => exact ⟨.idle, by simp, rfl⟩
  | @used ref u hphase =>
    cases u with
    | write w => exact ⟨.access ref (.write w), by simp, rfl⟩
    | query => exact ⟨.idle, by simp, rfl⟩

theorem holds_advance (h : Advance ops s i s') (hs : s.Sound ops) {ref : RecordRef}
    (hholds : s.registry.store.Holds ref) : s'.registry.store.Holds ref := by
  obtain ⟨ch, -, hregistry⟩ := registry_advance h hs
  rw [hregistry, Registry.holds_apply_iff]
  exact Or.inl hholds

theorem Sound.advance (hs : s.Sound ops) (h : Advance ops s i s') : s'.Sound ops := by
  obtain ⟨ch, hch, hregistry⟩ := registry_advance h hs
  refine ⟨?_, ?_, ?_⟩
  · rw [hregistry]
    exact hs.registry.apply ch
  · rw [hregistry, Registry.poisoned_apply, hs.usable]
    simpa using hch
  · intro j ref u hphase
    by_cases hij : j = i
    · subst hij
      cases h with
      | @found t u' ref' hwaiting hop hlookup =>
        -- the only way to hold a record is to have just found it
        rw [phase_put_self] at hphase
        obtain ⟨rfl, rfl⟩ : ref' = ref ∧ u' = u := by simpa using hphase
        have href := (Registry.lookup_eq_ok_iff.mp hlookup).2
        refine ⟨hs.registry.holds href, ?_⟩
        rw [hs.registry.thread_eq href]
        exact hop
      | whole | missed | used => simp at hphase
    · rw [phase_of_ne h hij] at hphase
      exact ⟨holds_advance h hs (hs.held hphase).1, (hs.held hphase).2⟩

theorem sound_run? {schedule : List ι} (hs : s.Sound ops)
    (h : run? ops s schedule = some fin) : fin.Sound ops := by
  induction schedule generalizing s with
  | nil =>
    obtain rfl : s = fin := by simpa [run?] using h
    exact hs
  | cons i rest ih =>
    obtain ⟨s', hadvance, -, hrest⟩ := run?_cons_eq_some h
    exact ih (hs.advance hadvance) hrest

/-! ### Late operations -/

/-- The operation holds a record of `D`. -/
def holdsIn (s : Traffic ι) (D : RecordRef → Prop) [DecidablePred D] (j : ι) : Bool :=
  match s.phase j with
  | .holding ref _ => D ref
  | _ => false

/-- Records that the store has given and that no thread has any more. -/
def Dropped (s : Traffic ι) (D : RecordRef → Prop) : Prop :=
  ∀ ref, D ref → s.registry.store.Holds ref ∧ ¬ s.registry.Registers ref

variable {D : RecordRef → Prop} [DecidablePred D]

omit [DecidableEq ι] in
theorem holdsIn_eq_true_iff : s.holdsIn D j = true ↔ ∃ ref u, s.phase j = .holding ref u ∧ D ref := by
  unfold holdsIn
  cases s.phase j <;> simp

omit [DecidablePred D] in
theorem Dropped.advance (hD : s.Dropped D) (hs : s.Sound ops) (h : Advance ops s i s') :
    s'.Dropped D := by
  intro ref href
  obtain ⟨ch, -, hregistry⟩ := registry_advance h hs
  refine ⟨holds_advance h hs (hD ref href).1, ?_⟩
  rw [hregistry]
  exact Registry.not_registers_apply (hD ref href).1 (hD ref href).2 ch

/-- Nobody can find a record that was dropped. -/
theorem holdsIn_advance (hD : s.Dropped D) (hs : s.Sound ops) (h : Advance ops s i s')
    (hj : j ≠ i ∨ s.holdsIn D j = false) : s'.holdsIn D j = s.holdsIn D j := by
  by_cases hij : j = i
  · subst hij
    have hnot : s.holdsIn D j = false := hj.resolve_left (fun hne => hne rfl)
    rw [hnot]
    cases h with
    | @found t u ref hphase hop hlookup =>
      have href := hs.registry.registers (Registry.lookup_eq_ok_iff.mp hlookup).2
      have hnotD : ¬ D ref := fun hdropped => (hD ref hdropped).2 href
      simp [holdsIn, hnotD]
    | whole | missed | used => simp [holdsIn]
  · rw [holdsIn, phase_of_ne h hij]
    rfl

/-- An entry changes nothing about who is late among those still to come. -/
theorem filter_holdsIn {rest : List ι} (hD : s.Dropped D) (hs : s.Sound ops)
    (hs' : s.advance? ops i = some s') (hrest : run? ops s' rest = some fin) :
    rest.filter (s'.holdsIn D) = rest.filter (s.holdsIn D) := by
  have hadvance := advance_of_advance? hs'
  apply List.filter_congr
  intro j hj
  by_cases hholds : s.holdsIn D i = true
  · -- `i` uses its record now and is not named again
    obtain ⟨ref, u, hphase, -⟩ := holdsIn_eq_true_iff.mp hholds
    obtain rfl : s.put i _ _ = s' := by simpa [advance?, hphase] using hs'
    have hnot := (finished_run? (phase_put_self s i _ _) hrest).1
    have hne : j ≠ i := by
      rintro rfl
      exact hnot hj
    exact holdsIn_advance hD hs hadvance (Or.inl hne)
  · by_cases hij : j = i
    · subst hij
      exact holdsIn_advance hD hs hadvance (Or.inr (by simpa using hholds))
    · exact holdsIn_advance hD hs hadvance (Or.inl hij)

/-- What is known at a record only changes when an operation is named that holds it. -/
theorem infoAt_advance (h : Advance ops s i s') (hs : s.Sound ops) {ref : RecordRef}
    (hne : ∀ u, s.phase i ≠ .holding ref u) :
    s'.registry.infoAt ref = s.registry.infoAt ref := by
  cases h with
  | whole hphase hop =>
    rw [registry_put, (Registry.run_whole hs.usable hop).2, Registry.infoAt_apply_whole hop]
  | found | missed => rfl
  | @used ref' u hphase =>
    have href : ref ≠ ref' := by
      rintro rfl
      exact hne u hphase
    exact (Registry.mirrors_useAt s.registry ref' u).known ref href

/-- An operation on a registered record, done as a whole, uses the record. -/
theorem run_use_registered {q : Registry} {ref : RecordRef} {u : Use}
    (hp : q.table.poisoned = false) (hq : q.Registers ref) :
    ((Operation.use ref.thread u).call.run q).result = .ok (q.useAt ref u).1 ∧
      ((Operation.use ref.thread u).call.run q).registry = (q.useAt ref u).2 := by
  have hlookup : q.lookup ref.thread = .ok ref := Registry.lookup_eq_ok_iff.mpr ⟨hp, hq⟩
  rw [Registry.run_use, hlookup]
  exact ⟨rfl, rfl⟩

/-- **Late operations may be done before their records are dropped.**  Let `q` still
    register the records of `D`, which `s` has dropped, and know the same at them.
    Then the operations that hold these records get in `q`, one after another, the
    results that they get in the rest of the schedule; and `q` changes nowhere else. -/
theorem results_late {q : Registry} {schedule : List ι} (hs : s.Sound ops) (hD : s.Dropped D)
    (hp : q.table.poisoned = false) (hq : ∀ ref, D ref → q.Registers ref ∧ q.store.Holds ref)
    (hknown : ∀ ref, D ref → q.infoAt ref = s.registry.infoAt ref)
    (h : run? ops s schedule = some fin) :
    (∀ entry ∈ q.results ops (schedule.filter (s.holdsIn D)),
      fin.phase entry.1 = .finished entry.2) ∧
    Registry.Mirrors (fun ref => ¬ D ref) (q.afterOps ops (schedule.filter (s.holdsIn D))) q := by
  induction schedule generalizing s q with
  | nil => exact ⟨by simp [Registry.results], Registry.Mirrors.refl _ q⟩
  | cons i rest ih =>
    obtain ⟨s', hadvance, hs', hrest⟩ := run?_cons_eq_some h
    have hfilter := filter_holdsIn hD hs hs' hrest
    by_cases hholds : s.holdsIn D i = true
    · obtain ⟨ref, u, hphase, href⟩ := holdsIn_eq_true_iff.mp hholds
      obtain rfl : s.put i _ _ = s' := by simpa [advance?, hphase] using hs'
      have hmirror : Registry.Mirrors (fun ref => ¬ D ref) (q.useAt ref u).2 q :=
        (Registry.mirrors_useAt q ref u).mono (by rintro ref' hnot rfl; exact hnot href)
      have hrun := run_use_registered (u := u) hp (hq ref href).1
      rw [← (hs.held hphase).2] at hrun
      obtain ⟨hanswer, hboth⟩ :=
        Registry.known_useAt_both hknown href (hq ref href).2 (hs.held hphase).1 u
      have hkeeps : ∀ ref', D ref' →
          (q.useAt ref u).2.Registers ref' ∧ (q.useAt ref u).2.store.Holds ref' := by
        intro ref' href'
        rw [Registry.Registers, hmirror.ref?_eq, hmirror.holds_iff]
        exact hq ref' href'
      obtain ⟨hresults, hafter⟩ := ih (hs.advance hadvance) (hD.advance hs hadvance)
        (by rw [hmirror.table]; exact hp) hkeeps hboth hrest
      rw [List.filter_cons_of_pos hholds, ← hfilter]
      simp only [Registry.results, Registry.afterOps_cons, hrun.1, hrun.2]
      refine ⟨?_, hafter.trans hmirror⟩
      intro entry hentry
      rcases List.mem_cons.mp hentry with rfl | hentry
      · rw [hanswer]
        exact (finished_run? (phase_put_self s i _ _) hrest).2
      · exact hresults entry hentry
    · have hsame : ∀ ref, D ref → q.infoAt ref = s'.registry.infoAt ref := by
        intro ref href
        rw [infoAt_advance hadvance hs]
        · exact hknown ref href
        · intro u hphase
          exact hholds (holdsIn_eq_true_iff.mpr ⟨ref, u, hphase, href⟩)
      rw [List.filter_cons_of_neg hholds, ← hfilter]
      exact ih (hs.advance hadvance) (hD.advance hs hadvance) hp hq hsame hrest

end Traffic

end FaultWatch

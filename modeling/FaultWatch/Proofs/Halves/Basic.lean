/-
  FaultWatch/Proofs/Halves/Basic.lean
  ===================================
  **Operations in two halves.**

  An operation that needs a thread's record first looks the record up and then uses
  it, and between the two halves any other operation may come (`Traffic`).  So the
  record may have been dropped or replaced by the time it is used.  Creating,
  destroying and releasing are done at one stroke.

  A schedule is a list of operations, in which the one that is named does what it
  has to do next: first its only stroke or its first half, then its second half.  An
  operation whose first half failed, or that has done everything, cannot be named
  again (`Traffic.advance?`).  `Advance` lists all that a single entry of a schedule
  can come to.
-/
import FaultWatch.Proofs.Registry.Change
import Mathlib.Logic.Function.Basic

namespace FaultWatch

/-! ### Operations -/

/-- What an operation does with the record in its second half. -/
inductive Use where
  | write (w : Write)
  | query
deriving DecidableEq, Repr

inductive Operation where
  | create (thread : ThreadId)
  | destroy (thread : ThreadId)
  | release
  /-- Look the record of a thread up, then use it. -/
  | use (thread : ThreadId) (u : Use)
deriving DecidableEq, Repr

def Operation.call : Operation → Call
  | .create t => .create t
  | .destroy t => .destroy t
  | .release => .release
  | .use t (.write w) => .write t w
  | .use t .query => .query t

/-- The change that an operation makes that is done at one stroke. -/
def Operation.change? : Operation → Option Change
  | .create t => some (.create t)
  | .destroy t => some (.destroy t)
  | .release => some .release
  | .use _ _ => none

namespace Registry

/-- The second half of an operation: the answer, and the registry after it. -/
def useAt (r : Registry) (ref : RecordRef) : Use → Answer × Registry
  | .write w => (.done, r.accessAt ref (.write w))
  | .query => (.info (r.infoAt ref), r)

/-- **The two halves make the whole call.** -/
theorem run_use (r : Registry) (t : ThreadId) (u : Use) :
    (Operation.use t u).call.run r =
      match r.lookup t with
      | .ok ref => ⟨.ok (r.useAt ref u).1, (r.useAt ref u).2, []⟩
      | .error f => ⟨.error f, r, [.failed f]⟩ := by
  cases u with
  | write w =>
    cases hl : r.lookup t <;>
      simp [Operation.call, Call.run, write, withRecord, hl, Reply.map, Except.map, useAt]
  | query =>
    cases hl : r.lookup t <;>
      simp [Operation.call, Call.run, query, withRecord, hl, Reply.map, Except.map, useAt]

/-- An operation that is done at one stroke succeeds and makes its change. -/
theorem run_whole {r : Registry} {op : Operation} {ch : Change} (hp : r.table.poisoned = false)
    (hop : op.change? = some ch) :
    (op.call.run r).result = .ok .done ∧ (op.call.run r).registry = r.apply ch := by
  cases op with
  | create t =>
    obtain rfl : Change.create t = ch := by simpa [Operation.change?] using hop
    simp [Operation.call, Call.run, create, Guarded.lock, hp, Reply.map, Except.map, apply]
  | destroy t =>
    obtain rfl : Change.destroy t = ch := by simpa [Operation.change?] using hop
    simp [Operation.call, Call.run, destroy, Guarded.lock, hp, Reply.map, Except.map, apply]
  | release =>
    obtain rfl : Change.release = ch := by simpa [Operation.change?] using hop
    simp [Operation.call, Call.run, release, Guarded.lock, hp, Reply.map, Except.map, apply]
  | use t u => simp [Operation.change?] at hop

end Registry

/-! ### Schedules -/

/-- How far an operation has come. -/
inductive Phase where
  | waiting
  /-- It has looked its record up and not used it yet. -/
  | holding (ref : RecordRef) (u : Use)
  | finished (result : Except Failure Answer)

/-- A registry, and operations on it that are under way. -/
structure Traffic (ι : Type) where
  registry : Registry
  phase : ι → Phase

namespace Traffic

variable {ι : Type} [DecidableEq ι]

def start (r : Registry) : Traffic ι := ⟨r, fun _ => .waiting⟩

/-- The operation comes to a phase, and the registry is changed on the way. -/
def put (s : Traffic ι) (i : ι) (p : Phase) (r : Registry) : Traffic ι :=
  ⟨r, Function.update s.phase i p⟩

/-- The operation does what it has to do next, if there is anything. -/
def advance? (ops : ι → Operation) (s : Traffic ι) (i : ι) : Option (Traffic ι) :=
  match s.phase i with
  | .waiting =>
    match ops i with
    | .use t u =>
      match s.registry.lookup t with
      | .ok ref => some (s.put i (.holding ref u) s.registry)
      | .error f => some (s.put i (.finished (.error f)) s.registry)
    | op =>
      let reply := op.call.run s.registry
      some (s.put i (.finished reply.result) reply.registry)
  | .holding ref u =>
    let (answer, r) := s.registry.useAt ref u
    some (s.put i (.finished (.ok answer)) r)
  | .finished _ => none

def run? (ops : ι → Operation) (s : Traffic ι) : List ι → Option (Traffic ι)
  | [] => some s
  | i :: rest => (s.advance? ops i).bind fun s' => run? ops s' rest

/-- No operation has stopped half way. -/
def Settled (s : Traffic ι) : Prop := ∀ i ref u, s.phase i ≠ .holding ref u

@[simp] theorem phase_put_self (s : Traffic ι) (i : ι) (p : Phase) (r : Registry) :
    (s.put i p r).phase i = p := by
  simp [put]

theorem phase_put_of_ne (s : Traffic ι) {i j : ι} (h : j ≠ i) (p : Phase) (r : Registry) :
    (s.put i p r).phase j = s.phase j := by
  simp [put, h]

@[simp] theorem registry_put (s : Traffic ι) (i : ι) (p : Phase) (r : Registry) :
    (s.put i p r).registry = r := rfl

end Traffic

/-! ### What an entry of a schedule can come to -/

/-- The four things that an operation can do when it is named. -/
inductive Advance {ι : Type} [DecidableEq ι] (ops : ι → Operation) (s : Traffic ι) (i : ι) :
    Traffic ι → Prop where
  | whole {ch : Change} (hphase : s.phase i = .waiting) (hop : (ops i).change? = some ch) :
    Advance ops s i (s.put i (.finished ((ops i).call.run s.registry).result)
      ((ops i).call.run s.registry).registry)
  | found {t : ThreadId} {u : Use} {ref : RecordRef} (hphase : s.phase i = .waiting)
      (hop : ops i = .use t u) (hlookup : s.registry.lookup t = .ok ref) :
    Advance ops s i (s.put i (.holding ref u) s.registry)
  | missed {t : ThreadId} {u : Use} {f : Failure} (hphase : s.phase i = .waiting)
      (hop : ops i = .use t u) (hlookup : s.registry.lookup t = .error f) :
    Advance ops s i (s.put i (.finished (.error f)) s.registry)
  | used {ref : RecordRef} {u : Use} (hphase : s.phase i = .holding ref u) :
    Advance ops s i (s.put i (.finished (.ok (s.registry.useAt ref u).1))
      (s.registry.useAt ref u).2)

namespace Traffic

variable {ι : Type} [DecidableEq ι] {ops : ι → Operation} {s s' fin : Traffic ι} {i j : ι}

theorem advance_of_advance? (h : s.advance? ops i = some s') : Advance ops s i s' := by
  unfold advance? at h
  cases hphase : s.phase i with
  | waiting =>
    rw [hphase] at h
    cases hop : ops i with
    | use t u =>
      simp only [hop] at h
      cases hlookup : s.registry.lookup t with
      | ok ref =>
        obtain rfl : s.put i _ _ = s' := by simpa [hlookup] using h
        exact .found hphase hop hlookup
      | error f =>
        obtain rfl : s.put i _ _ = s' := by simpa [hlookup] using h
        exact .missed hphase hop hlookup
    | create t =>
      obtain rfl : s.put i _ _ = s' := by simpa [hop] using h
      have hchange : (ops i).change? = some (.create t) := by
        rw [hop]
        rfl
      rw [← hop]
      exact .whole hphase hchange
    | destroy t =>
      obtain rfl : s.put i _ _ = s' := by simpa [hop] using h
      have hchange : (ops i).change? = some (.destroy t) := by
        rw [hop]
        rfl
      rw [← hop]
      exact .whole hphase hchange
    | release =>
      obtain rfl : s.put i _ _ = s' := by simpa [hop] using h
      have hchange : (ops i).change? = some .release := by
        rw [hop]
        rfl
      rw [← hop]
      exact .whole hphase hchange
  | holding ref u =>
    obtain rfl : s.put i _ _ = s' := by simpa [hphase] using h
    exact .used hphase
  | finished result => simp [hphase] at h

theorem run?_cons_eq_some {rest : List ι} (h : run? ops s (i :: rest) = some fin) :
    ∃ s', Advance ops s i s' ∧ s.advance? ops i = some s' ∧ run? ops s' rest = some fin := by
  obtain ⟨s', hs', hrest⟩ := Option.bind_eq_some_iff.mp h
  exact ⟨s', advance_of_advance? hs', hs', hrest⟩

/-- An operation does nothing unless it is named. -/
theorem phase_of_ne (h : Advance ops s i s') (hne : j ≠ i) : s'.phase j = s.phase j := by
  cases h with
  | whole | found | missed | used => exact phase_put_of_ne s hne _ _

/-- An operation that is finished is not named again, and keeps its result. -/
theorem finished_run? {schedule : List ι} {result : Except Failure Answer}
    (hphase : s.phase i = .finished result) (h : run? ops s schedule = some fin) :
    i ∉ schedule ∧ fin.phase i = .finished result := by
  induction schedule generalizing s with
  | nil =>
    obtain rfl : s = fin := by simpa [run?] using h
    exact ⟨by simp, hphase⟩
  | cons j rest ih =>
    obtain ⟨s', hadvance, hs', hrest⟩ := run?_cons_eq_some h
    by_cases hij : i = j
    · subst hij
      simp [advance?, hphase] at hs'
    · obtain ⟨hmem, hfin⟩ := ih ((phase_of_ne hadvance hij).trans hphase) hrest
      exact ⟨by simp [hij, hmem], hfin⟩

/-- An operation that is never named stays where it is. -/
theorem phase_run?_of_not_mem {schedule : List ι} (hmem : i ∉ schedule)
    (h : run? ops s schedule = some fin) : fin.phase i = s.phase i := by
  induction schedule generalizing s with
  | nil =>
    obtain rfl : s = fin := by simpa [run?] using h
    rfl
  | cons j rest ih =>
    obtain ⟨s', hadvance, -, hrest⟩ := run?_cons_eq_some h
    simp only [List.mem_cons, not_or] at hmem
    obtain ⟨hij, hmem'⟩ := hmem
    rw [ih hmem' hrest, phase_of_ne hadvance hij]

/-- An operation that holds a record is named once more at most. -/
theorem count_le_one_of_holding {schedule : List ι} {ref : RecordRef} {u : Use}
    (hphase : s.phase i = .holding ref u) (h : run? ops s schedule = some fin) :
    schedule.count i ≤ 1 := by
  induction schedule generalizing s with
  | nil => simp
  | cons j rest ih =>
    obtain ⟨s', hadvance, hs', hrest⟩ := run?_cons_eq_some h
    by_cases hij : j = i
    · subst hij
      obtain rfl : s.put j _ _ = s' := by simpa [advance?, hphase] using hs'
      have hnot := (finished_run? (phase_put_self s j _ _) hrest).1
      simp [List.count_eq_zero.mpr hnot]
    · rw [List.count_cons_of_ne hij]
      exact ih ((phase_of_ne hadvance (Ne.symm hij)).trans hphase) hrest

end Traffic

end FaultWatch

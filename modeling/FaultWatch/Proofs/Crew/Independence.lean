/-
  FaultWatch/Proofs/Crew/Independence.lean
  ========================================
  **Workers with threads of their own.**

  Several workers share a registry, and their steps are mixed in some order
  (`Team.turns`).  If no two of them use the same thread, each is told exactly what it
  would be told if it were alone, whatever the order, and in the end the registry is
  the same for all orders.

  For one worker, the run of the team is compared with the worker's own run.  The
  sessions of the two agree on the worker's threads: its own steps are taken in both
  (`AgreesOn.step`), and a step of anybody else is outside of its threads
  (`Team.agreesOn_step`).
-/
import FaultWatch.Proofs.Crew.Agree
import Mathlib.Logic.Function.Basic

namespace FaultWatch

/-! ### Teams -/

/-- A registry, and the slots of each worker on it. -/
structure Team (ι : Type) where
  registry : Registry
  slots : ι → Slots

/-- The part of one worker in a list of what all workers do or get. -/
def shareOf {ι α : Type} [DecidableEq ι] (i : ι) (tagged : List (ι × α)) : List α :=
  (tagged.filter fun entry => entry.1 = i).map (·.2)

/-- The order mixes the work of all workers, each worker's own steps in their order. -/
def Interleaves {ι : Type} [DecidableEq ι] (work : ι → List Step)
    (trace : List (ι × Step)) : Prop :=
  ∀ i, shareOf i trace = work i

section

variable {ι α : Type} [DecidableEq ι]

theorem shareOf_cons_self (i : ι) (a : α) (tagged : List (ι × α)) :
    shareOf i ((i, a) :: tagged) = a :: shareOf i tagged := by
  simp [shareOf]

theorem shareOf_cons_of_ne {i j : ι} (h : j ≠ i) (a : α) (tagged : List (ι × α)) :
    shareOf i ((j, a) :: tagged) = shareOf i tagged := by
  simp [shareOf, h]

theorem mem_shareOf {i : ι} {a : α} {tagged : List (ι × α)} (h : (i, a) ∈ tagged) :
    a ∈ shareOf i tagged := by
  simp only [shareOf, List.mem_map, List.mem_filter]
  exact ⟨(i, a), ⟨h, by simp⟩, rfl⟩

end

namespace Team

variable {ι : Type} {own : ι → ThreadId → Prop}

def start (r : Registry) : Team ι := ⟨r, fun _ => []⟩

def session (s : Team ι) (i : ι) : Session := ⟨s.registry, s.slots i⟩

/-- The table is sound, and everyone keeps records of their own threads only. -/
structure Tidy (own : ι → ThreadId → Prop) (s : Team ι) : Prop where
  registry : s.registry.Sound
  kept : ∀ i, (s.session i).KeepsWithin (own i)

theorem tidy_start {r : Registry} (hr : r.Sound) : (start r : Team ι).Tidy own := by
  refine ⟨hr, ?_⟩
  intro i slot ref hkept
  simp [session, start, Session.kept?] at hkept

variable [DecidableEq ι]

def step (s : Team ι) (i : ι) (st : Step) : Team ι :=
  let after := ((s.session i).step st).after
  ⟨after.registry, Function.update s.slots i after.slots⟩

/-- The turns of all workers, each with the worker who took it. -/
def turns (s : Team ι) : List (ι × Step) → List (ι × Turn)
  | [] => []
  | (i, st) :: rest => (i, (s.session i).step st) :: (s.step i st).turns rest

def run (s : Team ι) : List (ι × Step) → Team ι
  | [] => s
  | (i, st) :: rest => (s.step i st).run rest

variable {s : Team ι} {i j : ι} {st : Step} {trace : List (ι × Step)}

@[simp] theorem session_step_self (s : Team ι) (i : ι) (st : Step) :
    (s.step i st).session i = ((s.session i).step st).after := by
  simp [session, step]

theorem slots_step_of_ne (h : i ≠ j) (s : Team ι) (st : Step) :
    (s.step j st).slots i = s.slots i := by
  simp [step, h]

/-! ### What holds all the time -/

theorem Tidy.step (hs : s.Tidy own) (hst : st.Within (own j)) : (s.step j st).Tidy own := by
  constructor
  · have hsound := hs.registry.apply ((s.session j).change st)
    rw [show s.registry = (s.session j).registry from rfl, ← Session.registry_step] at hsound
    exact hsound
  · intro i
    by_cases hij : i = j
    · subst hij
      rw [session_step_self]
      exact (hs.kept i).step hs.registry hst
    · intro slot ref hkept
      have hkept' : (s.session i).kept? slot = some ref := by
        rw [Session.kept?, session, slots_step_of_ne hij] at hkept
        exact hkept
      exact hs.kept i slot ref hkept'

theorem agreesOn_step (hs : s.Tidy own) (hst : st.Within (own j)) :
    (s.step j st).registry.AgreesOn (fun t => ¬ own j t) s.registry :=
  Session.agreesOn_step_of_within hs.registry (hs.kept j) hst

theorem Tidy.run (hs : s.Tidy own) (hwithin : ∀ entry ∈ trace, entry.2.Within (own entry.1)) :
    (s.run trace).Tidy own := by
  induction trace generalizing s with
  | nil => exact hs
  | cons entry rest ih =>
    obtain ⟨j, st⟩ := entry
    have hst : st.Within (own j) := hwithin (j, st) (by simp)
    exact ih (hs.step hst) fun entry hentry => hwithin entry (by simp [hentry])

/-! ### One worker among all -/

/-- The worker's own run goes on agreeing with the team when somebody else takes a
    step. -/
theorem agreesOn_step_of_ne {solo : Session} (hdisjoint : ∀ i j t, own i t → own j t → i = j)
    (hs : s.Tidy own) (hsolo : solo.AgreesOn (own i) (s.session i)) (hij : i ≠ j)
    (hst : st.Within (own j)) : solo.AgreesOn (own i) ((s.step j st).session i) := by
  have hother : (s.step j st).registry.AgreesOn (own i) s.registry := by
    apply (agreesOn_step hs hst).mono
    intro t hi hj
    exact hij (hdisjoint i j t hi hj)
  refine ⟨hsolo.registry.trans hother.symm, ?_⟩
  rw [hsolo.slots]
  exact (slots_step_of_ne hij s st).symm

/-- **A worker with threads of its own works as if it were alone**: it is told the
    same, and agrees with the team in the end. -/
theorem agreesOn_run {solo : Session} (hdisjoint : ∀ i j t, own i t → own j t → i = j)
    (hs : s.Tidy own) (hsolo : solo.AgreesOn (own i) (s.session i))
    (hwithin : ∀ entry ∈ trace, entry.2.Within (own entry.1)) :
    (shareOf i (s.turns trace)).map Turn.told =
        (solo.turns (shareOf i trace)).map Turn.told ∧
      (solo.run (shareOf i trace)).AgreesOn (own i) ((s.run trace).session i) := by
  induction trace generalizing s solo with
  | nil => exact ⟨rfl, hsolo⟩
  | cons entry rest ih =>
    obtain ⟨j, st⟩ := entry
    have hst : st.Within (own j) := hwithin (j, st) (by simp)
    have hrest : ∀ entry ∈ rest, entry.2.Within (own entry.1) := fun entry hentry =>
      hwithin entry (by simp [hentry])
    rw [turns, run]
    by_cases hij : i = j
    · -- the worker's own step is taken in both runs
      subst hij
      have hafter : (solo.step st).after.AgreesOn (own i) ((s.step i st).session i) := by
        rw [session_step_self]
        exact hsolo.step hs.registry (hs.kept i) hst
      obtain ⟨htold, hrun⟩ := ih (hs.step hst) hafter hrest
      rw [shareOf_cons_self, shareOf_cons_self, List.map_cons, Session.turns, List.map_cons,
        htold, hsolo.told_step hs.registry (hs.kept i) hst, Session.run_cons]
      exact ⟨rfl, hrun⟩
    · rw [shareOf_cons_of_ne (Ne.symm hij), shareOf_cons_of_ne (Ne.symm hij)]
      exact ih (hs.step hst) (agreesOn_step_of_ne hdisjoint hs hsolo hij hst) hrest

/-- Threads that nobody uses stay as they were. -/
theorem agreesOn_run_of_nobody (hs : s.Tidy own)
    (hwithin : ∀ entry ∈ trace, entry.2.Within (own entry.1)) :
    (s.run trace).registry.AgreesOn (fun t => ∀ i, ¬ own i t) s.registry := by
  induction trace generalizing s with
  | nil => exact Registry.AgreesOn.refl _ _
  | cons entry rest ih =>
    obtain ⟨j, st⟩ := entry
    have hst : st.Within (own j) := hwithin (j, st) (by simp)
    have hstep : (s.step j st).registry.AgreesOn (fun t => ∀ i, ¬ own i t) s.registry :=
      (agreesOn_step hs hst).mono fun t ht => ht j
    have hrest := ih (hs.step hst) fun entry hentry => hwithin entry (by simp [hentry])
    exact hrest.trans hstep

end Team

/-! ### What does not depend on the order -/

namespace Registry

/-- The record of a registered thread, whether the table is poisoned or not. -/
def record? (r : Registry) (t : ThreadId) : Option Record := (r.ref? t).map r.store.get

theorem AgreesOn.record? {own : ThreadId → Prop} {q r : Registry} {t : ThreadId}
    (h : AgreesOn own q r) (hr : r.Sound) (ht : own t) : q.record? t = r.record? t := by
  rw [Registry.record?, Registry.record?, h.ref? ht]
  cases href : r.ref? t with
  | none => rfl
  | some ref =>
    have hown : own ref.thread := by
      rw [hr.thread_eq href]
      exact ht
    exact congrArg some (h.get hown)

/-- Registries are the same if they agree on everybody's threads, and on those of
    nobody. -/
theorem eq_of_agreesOn {ι : Type} {own : ι → ThreadId → Prop} {q r : Registry}
    (hnobody : AgreesOn (fun t => ∀ i, ¬ own i t) q r) (hown : ∀ i, AgreesOn (own i) q r) :
    q = r := by
  have hall : AgreesOn (fun _ => True) q r := by
    refine ⟨hnobody.config, hnobody.poisoned, ?_, ?_⟩
    · intro t _
      by_cases ht : ∃ i, own i t
      · obtain ⟨i, hi⟩ := ht
        exact (hown i).ref? hi
      · exact hnobody.ref? (not_exists.mp ht)
    · intro t _
      by_cases ht : ∃ i, own i t
      · obtain ⟨i, hi⟩ := ht
        exact (hown i).rows hi
      · exact hnobody.rows (not_exists.mp ht)
  exact hall.eq fun _ => trivial

end Registry

section

variable {ι : Type} [DecidableEq ι] {own : ι → ThreadId → Prop} {work : ι → List Step}
  {trace trace' : List (ι × Step)} {r : Registry}

theorem Interleaves.within (htrace : Interleaves work trace)
    (hwork : ∀ i, ∀ st ∈ work i, st.Within (own i)) :
    ∀ entry ∈ trace, entry.2.Within (own entry.1) := by
  rintro ⟨i, st⟩ hentry
  apply hwork i
  rw [← htrace i]
  exact mem_shareOf hentry

theorem agreesOn_alone (hr : r.Sound) (hdisjoint : ∀ i j t, own i t → own j t → i = j)
    (hwork : ∀ i, ∀ st ∈ work i, st.Within (own i)) (htrace : Interleaves work trace) (i : ι) :
    (shareOf i ((Team.start r).turns trace)).map Turn.told =
        (r.session.turns (work i)).map Turn.told ∧
      (r.after (work i)).AgreesOn (own i) ((Team.start r).run trace).registry := by
  have hsolo : r.session.AgreesOn (own i) ((Team.start r : Team ι).session i) :=
    ⟨Registry.AgreesOn.refl _ _, rfl⟩
  obtain ⟨htold, hrun⟩ := Team.agreesOn_run hdisjoint (Team.tidy_start hr) hsolo
    (htrace.within hwork)
  rw [htrace i] at htold hrun
  exact ⟨htold, hrun.registry⟩

/-- The order of the steps does not matter for the registry in the end. -/
theorem registry_run_eq (hr : r.Sound) (hdisjoint : ∀ i j t, own i t → own j t → i = j)
    (hwork : ∀ i, ∀ st ∈ work i, st.Within (own i)) (htrace : Interleaves work trace)
    (htrace' : Interleaves work trace') :
    ((Team.start r).run trace).registry = ((Team.start r).run trace').registry := by
  have htidy : (Team.start r : Team ι).Tidy own := Team.tidy_start hr
  have hnobody := Team.agreesOn_run_of_nobody htidy (htrace.within hwork)
  have hnobody' := Team.agreesOn_run_of_nobody htidy (htrace'.within hwork)
  refine Registry.eq_of_agreesOn (hnobody.trans hnobody'.symm) ?_
  intro i
  have hown := (agreesOn_alone hr hdisjoint hwork htrace i).2
  have hown' := (agreesOn_alone hr hdisjoint hwork htrace' i).2
  exact hown.symm.trans hown'

end

/-- What mixing the steps of workers comes to. -/
structure Independent {ι : Type} [DecidableEq ι] (own : ι → ThreadId → Prop)
    (work : ι → List Step) (r : Registry) (trace : List (ι × Step)) : Prop where
  /-- Each worker gets the answers, and the entries in the journal, that it gets
      alone. -/
  told : ∀ i, (shareOf i ((Team.start r).turns trace)).map Turn.told =
    (r.session.turns (work i)).map Turn.told
  /-- The threads of a worker end up as they do when it works alone. -/
  record_own : ∀ i t, own i t →
    ((Team.start r).run trace).registry.record? t = (r.after (work i)).record? t
  /-- All other threads are left as they were. -/
  record_nobody : ∀ t, (∀ i, ¬ own i t) →
    ((Team.start r).run trace).registry.record? t = r.record? t
  /-- In any other order, the registry is the same in the end. -/
  registry : ∀ trace', Interleaves work trace' →
    ((Team.start r).run trace').registry = ((Team.start r).run trace).registry

/-- **Workers with threads of their own are independent**, however many there are,
    whatever the registry was before, and however their steps are mixed. -/
theorem independent_of_disjoint {ι : Type} [DecidableEq ι] (c : Config) (setup : List Step)
    (own : ι → ThreadId → Prop) (hdisjoint : ∀ i j t, own i t → own j t → i = j)
    (work : ι → List Step) (hwork : ∀ i, ∀ st ∈ work i, st.Within (own i))
    (trace : List (ι × Step)) (htrace : Interleaves work trace) :
    Independent own work ((Registry.empty c).after setup) trace := by
  have hr : ((Registry.empty c).after setup).Sound := (Session.sound_run c setup).registry
  generalize (Registry.empty c).after setup = r at hr ⊢
  have hwithin := htrace.within hwork
  have htidy : (Team.start r : Team ι).Tidy own := Team.tidy_start hr
  have halone := agreesOn_alone hr hdisjoint hwork htrace
  refine ⟨fun i => (halone i).1, ?_, ?_, ?_⟩
  · intro i t ht
    exact ((halone i).2.record? (htidy.run hwithin).registry ht).symm
  · intro t ht
    exact (Team.agreesOn_run_of_nobody htidy hwithin).record? hr ht
  · intro trace' htrace'
    exact registry_run_eq hr hdisjoint hwork htrace' htrace

def pairThread : Bool → ThreadId
  | true => ⟨1⟩
  | false => ⟨2⟩

/-- One of the two replaces the record it has kept and poisons the old one, the other
    one uses a thread that was there before. -/
def pairWork : Bool → List Step
  | true =>
    [.call (.create ⟨1⟩), .keep ['k'] ⟨1⟩, .call (.dispatch (.threadCreated ⟨1⟩)),
      .keep ['l'] ⟨1⟩, .same ['k'] ['l'], .access ['k'] .poison, .call (.contains ⟨1⟩)]
  | false =>
    [.keep ['k'] ⟨2⟩, .access ['k'] (.write .raise), .call (.query ⟨2⟩),
      .call (.destroy ⟨2⟩), .call (.write ⟨2⟩ .clear)]

def pairTrace : List (Bool × Step) :=
  [(true, .call (.create ⟨1⟩)), (false, .keep ['k'] ⟨2⟩), (true, .keep ['k'] ⟨1⟩),
    (false, .access ['k'] (.write .raise)), (true, .call (.dispatch (.threadCreated ⟨1⟩))),
    (true, .keep ['l'] ⟨1⟩), (false, .call (.query ⟨2⟩)), (true, .same ['k'] ['l']),
    (true, .access ['k'] .poison), (false, .call (.destroy ⟨2⟩)),
    (true, .call (.contains ⟨1⟩)), (false, .call (.write ⟨2⟩ .clear))]

theorem independent_of_disjoint_pair :
    (∀ i j t, t = pairThread i → t = pairThread j → i = j) ∧
    (∀ i, ∀ st ∈ pairWork i, st.Within fun t => t = pairThread i) ∧
    Interleaves pairWork pairTrace ∧
    Independent (fun i t => t = pairThread i) pairWork
      ((Registry.empty {}).after [.call (.create ⟨2⟩), .call (.create ⟨9⟩)]) pairTrace := by
  have hdisjoint : ∀ i j t, t = pairThread i → t = pairThread j → i = j := by
    rintro i j t rfl
    cases i <;> cases j <;> decide
  have hwork : ∀ i, ∀ st ∈ pairWork i, st.Within fun t => t = pairThread i := by
    intro i
    cases i <;> simp [pairWork, pairThread, Step.Within, Call.Within, Notification.thread]
  have htrace : Interleaves pairWork pairTrace := by
    intro i
    cases i <;> rfl
  exact ⟨hdisjoint, hwork, htrace,
    independent_of_disjoint {} _ _ hdisjoint pairWork hwork pairTrace htrace⟩

end FaultWatch

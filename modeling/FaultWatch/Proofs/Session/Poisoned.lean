/-
  FaultWatch/Proofs/Session/Poisoned.lean
  =======================================
  **Life with a poisoned table.**

  Once the table is poisoned it stays so, and whatever goes to it is refused because
  of the lock, before it has an effect and whether or not the thread is registered.
  All that comes of these steps are notices and warnings
  (`Step.linesWhenPoisoned`); everything else goes on as if they were not taken.
  In particular a kept record goes on working, and since no call reaches it any
  more, what is read from it is decided by the uses through slots alone.
-/
import FaultWatch.Proofs.Session.Failing
import FaultWatch.Proofs.Session.Told
import FaultWatch.Proofs.Session.Uses

namespace FaultWatch

/-! ### Lines of the journal -/

/-- The line about the lock that an operation on a thread's record leaves. -/
def lockWarning : Level × Text := (.warn, "Failed to lock target".toList)

/-- The lines that a call leaves when the table is poisoned. -/
def Call.linesWhenPoisoned : Call → List (Level × Text)
  | .write _ _ | .query _ => [lockWarning]
  | .dispatch n =>
    (.trace, n.name ++ ": ".toList ++ n.thread.text) ::
      match n.kind with
      | .threadCreated | .threadDestroyed => []
      | .exceptionCleared | .exceptionThrown | .exceptionCatcherFound | .exceptionQuery =>
        [lockWarning]
  | .create _ | .destroy _ | .release | .contains _ | .size | .isEmpty | .threads
  | .pendingThreads | .anyPending | .anyPendingStatus => []

def Step.linesWhenPoisoned : Step → List (Level × Text)
  | .call c => c.linesWhenPoisoned
  | .keep _ _ | .access _ _ | .same _ _ | .describe | .poison | .refused _ => []

theorem Call.line_complaint (c : Call) :
    (c.complaint .lockPoisoned).map Entry.line = c.linesWhenPoisoned := by
  cases c with
  | dispatch n => cases n <;> rfl
  | _ => rfl

/-! ### One step -/

namespace Session

variable {s : Session} {st : Step} {ref : RecordRef}

theorem poisoned_step_of_poisoned (hp : s.registry.table.poisoned = true) (st : Step) :
    (s.step st).after.registry.table.poisoned = true := by
  rw [poisoned_step, hp, Bool.true_or]

theorem poisoned_run_of_poisoned (hp : s.registry.table.poisoned = true) (later : List Step) :
    (s.run later).registry.table.poisoned = true := by
  induction later generalizing s with
  | nil => exact hp
  | cons st rest ih => exact ih (poisoned_step_of_poisoned hp st)

/-- **Whatever goes to a poisoned table is refused because of the lock**, and changes
    nothing. -/
theorem step_of_poisoned (hp : s.registry.table.poisoned = true) (hst : st.asksTable = true) :
    s.step st = ⟨.failed .lockPoisoned, st.complaint .lockPoisoned, s⟩ := by
  apply step_of_obstacle
  cases st with
  | call c => exact Call.obstacle?_of_poisoned hp c
  | keep slot t => exact Call.obstacle?_of_poisoned hp (.query t)
  | access | same | describe | poison | refused => simp [Step.asksTable] at hst

theorem lines_of_poisoned (hp : s.registry.table.poisoned = true) (st : Step) :
    (s.step st).lines = st.linesWhenPoisoned := by
  cases st with
  | call c =>
    rw [step_of_poisoned hp rfl]
    exact c.line_complaint
  | keep | access | same | describe | poison | refused =>
    rw [Turn.lines, log_of_not_call (by simp) s]
    rfl

theorem leftAlone_of_poisoned (hp : s.registry.table.poisoned = true) (ref : RecordRef) :
    s.LeftAlone ref := by
  intro later c a hch
  rcases change_of_poisoned (poisoned_run_of_poisoned hp later) (.call c) with
    hidle | hpoison | ⟨slot, a', ref', hst, -⟩
  · rw [change, hch] at hidle
    simp at hidle
  · rw [change, hch] at hpoison
    simp at hpoison
  · simp at hst

/-! ### Whole runs -/

/-- **Without the steps that go to the table, a run is the same.** -/
theorem run_filter_of_poisoned (hp : s.registry.table.poisoned = true) (later : List Step) :
    s.turnsOf (fun _ st => !st.asksTable) later =
        s.turns (later.filter fun st => !st.asksTable) ∧
      s.run later = s.run (later.filter fun st => !st.asksTable) := by
  induction later generalizing s with
  | nil => exact ⟨rfl, rfl⟩
  | cons st rest ih =>
    cases hst : st.asksTable with
    | true =>
      have hsame : (s.step st).after = s := by rw [step_of_poisoned hp hst]
      simp only [turnsOf, run_cons, hst, hsame, Bool.not_true, List.filter_cons]
      exact ih hp
    | false =>
      obtain ⟨hturns, hrun⟩ := ih (poisoned_step_of_poisoned hp st)
      simp only [turnsOf, run_cons, hst, Bool.not_false, List.filter_cons, if_true, turns,
        hturns, hrun, and_self]

theorem lines_turns_of_poisoned (hp : s.registry.table.poisoned = true) (later : List Step) :
    (s.turns later).flatMap Turn.lines = later.flatMap Step.linesWhenPoisoned := by
  induction later generalizing s with
  | nil => rfl
  | cons st rest ih =>
    rw [turns, List.flatMap_cons, List.flatMap_cons, lines_of_poisoned hp,
      ih (poisoned_step_of_poisoned hp st)]

/-- What a run comes to that starts with a poisoned table. -/
structure Contained (s : Session) (later : List Step) : Prop where
  /-- Whatever goes to the table is refused because of the lock, and changes nothing. -/
  refused : ∀ n st, later[n]? = some st → st.asksTable = true →
    ((s.run (later.take n)).step st).outcome = .failed .lockPoisoned ∧
      ((s.run (later.take n)).step st).after = s.run (later.take n)
  /-- All other steps are taken as in the run without those that go to the table. -/
  turns_others : s.turnsOf (fun _ st => !st.asksTable) later =
    s.turns (later.filter fun st => !st.asksTable)
  run_others : s.run later = s.run (later.filter fun st => !st.asksTable)
  /-- A kept record goes on working as a record by itself. -/
  seen : ∀ slot ref, s.kept? slot = some ref →
    s.seenOf ref later = ((s.registry.store.get ref).history (s.usesOf ref later)).map
      fun entry => (.answered entry.1, entry.2)
  /-- The journal has exactly these lines. -/
  lines : (s.turns later).flatMap Turn.lines = later.flatMap Step.linesWhenPoisoned

end Session

/-- **Poisoning the table is final, and does no harm beyond the table.** -/
theorem poisoning_contained (c : Config) (before : List Step) (hp : .poison ∈ before)
    (later : List Step) : ((Registry.empty c).session.run before).Contained later := by
  have hpoisoned : ((Registry.empty c).session.run before).registry.table.poisoned = true := by
    rw [poisoned_run]
    simpa using hp
  have hsound := Session.sound_run c before
  generalize (Registry.empty c).session.run before = s at hpoisoned hsound ⊢
  obtain ⟨hturns, hrun⟩ := Session.run_filter_of_poisoned hpoisoned later
  refine ⟨?_, hturns, hrun, ?_, Session.lines_turns_of_poisoned hpoisoned later⟩
  · intro n st _ hst
    rw [Session.step_of_poisoned (Session.poisoned_run_of_poisoned hpoisoned _) hst]
    exact ⟨rfl, rfl⟩
  · intro slot ref hkept
    exact Session.seenOf_eq_history (hsound.kept hkept)
      (Session.leftAlone_of_poisoned hpoisoned ref) later

/-- The table is poisoned while one thread is registered, its record kept, and the
    record of another one is kept that is gone. -/
def brokenRun : List Step :=
  [.call (.create ⟨1⟩), .keep ['k'] ⟨1⟩, .call (.create ⟨2⟩), .keep ['l'] ⟨2⟩,
    .call (.destroy ⟨2⟩), .poison]

/-- The registered thread, the one that is gone and an unknown one are asked for, and
    both records are used in between. -/
def brokenLater : List Step :=
  [.call (.dispatch (.exceptionThrown ⟨1⟩)), .access ['k'] (.write .raise),
    .call (.query ⟨2⟩), .access ['l'] .snapshot, .call .release, .keep ['k'] ⟨9⟩,
    .call (.dispatch (.threadCreated ⟨9⟩)), .access ['k'] .snapshot]

theorem poisoning_contained_broken : .poison ∈ brokenRun ∧
    ((Registry.empty {}).session.run brokenRun).Contained brokenLater :=
  ⟨by decide, poisoning_contained {} brokenRun (by decide) brokenLater⟩

end FaultWatch

/-
  FaultWatch/Proofs/Session/Dispatched.lean
  =========================================
  **Calling directly and by notification.**

  Every call that a notification asks for can be made in two ways.  A run in which any
  of these calls are made the other way (`Step.Rerouted`) is the same run: it goes
  through the same sessions, with the same records in the same slots.  A call that is
  dispatched fails exactly as the direct one does, and if it succeeds only the wrapping
  of its answer differs (`Outcome.Delivers`).  The journal has one line more, which says
  that the notification came in, and it stands there also if the call then fails.

  Nothing here looks into a call.  That a dispatched notification is its direct call
  with a notice in front is said once, in `Call.run_dispatch`.
-/
import FaultWatch.Proofs.Session.Told
import Mathlib.Data.List.Forall2

namespace FaultWatch

/-! ### Steps and outcomes -/

/-- A step, and what may be done in its place: the same, or dispatching the
    notification that asks for its call. -/
inductive Step.Rerouted : Step → Step → Prop where
  | same (st : Step) : Rerouted st st
  | dispatched (n : Notification) : Rerouted (.call n.call) (.call (.dispatch n))

/-- The outcome of a direct call, and the outcome of the notification that asks for
    it. -/
inductive Outcome.Delivers : Outcome → Outcome → Prop where
  | failed (f : Failure) : Delivers (.failed f) (.failed f)
  | done : Delivers (.answered .done) (.answered (.delivered none))
  | info (i : Info) : Delivers (.answered (.info i)) (.answered (.delivered (some i)))

theorem Outcome.delivers_map_done {α : Type} (result : Except Failure α) :
    (ofResult (result.map fun _ => .done)).Delivers
      (ofResult ((result.map fun _ => Answer.done).map Answer.delivery)) := by
  rcases result with f | a
  · exact .failed f
  · exact .done

theorem Outcome.delivers_map_info (result : Except Failure Info) :
    (ofResult (result.map .info)).Delivers
      (ofResult ((result.map Answer.info).map Answer.delivery)) := by
  rcases result with f | i
  · exact .failed f
  · exact .info i

namespace Session

variable {s : Session} {xs ys : List Step} {st st' : Step}

/-! ### One step -/

theorem after_of_rerouted (h : st.Rerouted st') (s : Session) :
    (s.step st').after = (s.step st).after := by
  rcases h with st | n
  · rfl
  · simp only [step, Call.run_dispatch]

theorem delivers_dispatch (s : Session) (n : Notification) :
    (s.step (.call n.call)).outcome.Delivers (s.step (.call (.dispatch n))).outcome := by
  simp only [step, Call.run_dispatch]
  cases n with
  | exceptionQuery t => exact Outcome.delivers_map_info _
  | threadCreated t | threadDestroyed t | exceptionCleared t | exceptionThrown t
  | exceptionCatcherFound t f => exact Outcome.delivers_map_done _

theorem lines_dispatch (s : Session) (n : Notification) :
    (s.step (.call (.dispatch n))).lines =
      (.trace, n.name ++ ": ".toList ++ n.thread.text) :: (s.step (.call n.call)).lines := by
  simp only [Turn.lines, step, Call.run_dispatch]
  rfl

/-! ### Whole runs -/

theorem run_of_rerouted (h : List.Forall₂ Step.Rerouted xs ys) (s : Session) :
    s.run ys = s.run xs := by
  induction h generalizing s with
  | nil => rfl
  | cons hst _ ih => rw [run_cons, run_cons, after_of_rerouted hst, ih]

/-- Of two runs, the second one makes some calls of the first one by notification, and
    apart from that nothing changes. -/
structure SameWhenDispatched (s : Session) (xs ys : List Step) : Prop where
  /-- Registry, records and slots are the same after every step. -/
  run : ∀ n, s.run (ys.take n) = s.run (xs.take n)
  /-- A step that is left as it is has the same turn. -/
  turn_same : ∀ n st, xs[n]? = some st → ys[n]? = some st →
    (s.run (ys.take n)).step st = (s.run (xs.take n)).step st
  /-- A dispatched call has the outcome of the direct one, as it is delivered. -/
  delivers : ∀ n m, xs[n]? = some (.call m.call) → ys[n]? = some (.call (.dispatch m)) →
    ((s.run (xs.take n)).step (.call m.call)).outcome.Delivers
      ((s.run (ys.take n)).step (.call (.dispatch m))).outcome
  /-- It writes one line more, which comes first, whatever the outcome. -/
  lines : ∀ n m, xs[n]? = some (.call m.call) → ys[n]? = some (.call (.dispatch m)) →
    ((s.run (ys.take n)).step (.call (.dispatch m))).lines =
      (.trace, m.name ++ ": ".toList ++ m.thread.text) ::
        ((s.run (xs.take n)).step (.call m.call)).lines

end Session

/-- **Calling by notification is calling directly.**  In any run, with any
    configuration and whatever happens to the table, any of the calls can be made by
    notification. -/
theorem dispatch_agrees (c : Config) (xs ys : List Step)
    (h : List.Forall₂ Step.Rerouted xs ys) :
    (Registry.empty c).session.SameWhenDispatched xs ys := by
  have hrun : ∀ n, (Registry.empty c).session.run (ys.take n) =
      (Registry.empty c).session.run (xs.take n) := by
    intro n
    exact Session.run_of_rerouted (List.forall₂_take n h) _
  refine ⟨hrun, ?_, ?_, ?_⟩
  · intro n st _ _
    rw [hrun]
  · intro n m _ _
    rw [hrun]
    exact Session.delivers_dispatch _ m
  · intro n m _ _
    rw [hrun]
    exact Session.lines_dispatch _ m

/-- A run with calls that succeed, one that finds no record and one that finds the
    table poisoned. -/
def calledRun : List Step :=
  [.call (.create ⟨7⟩), .keep ['k'] ⟨7⟩, .call (.write ⟨7⟩ .raise), .call (.query ⟨7⟩),
    .call (.destroy ⟨9⟩), .call (.write ⟨9⟩ .clear), .poison, .call (.query ⟨7⟩)]

/-- The same run, with notifications for most of the calls. -/
def notifiedRun : List Step :=
  [.call (.dispatch (.threadCreated ⟨7⟩)), .keep ['k'] ⟨7⟩, .call (.write ⟨7⟩ .raise),
    .call (.dispatch (.exceptionQuery ⟨7⟩)), .call (.dispatch (.threadDestroyed ⟨9⟩)),
    .call (.dispatch (.exceptionCleared ⟨9⟩)), .poison,
    .call (.dispatch (.exceptionQuery ⟨7⟩))]

theorem rerouted_notifiedRun : List.Forall₂ Step.Rerouted calledRun notifiedRun :=
  .cons (.dispatched (.threadCreated ⟨7⟩)) <| .cons (.same _) <| .cons (.same _) <|
    .cons (.dispatched (.exceptionQuery ⟨7⟩)) <| .cons (.dispatched (.threadDestroyed ⟨9⟩)) <|
    .cons (.dispatched (.exceptionCleared ⟨9⟩)) <| .cons (.same _) <|
    .cons (.dispatched (.exceptionQuery ⟨7⟩)) .nil

/-- The last query is refused in both runs, and the notification is noted all the
    same. -/
theorem dispatch_agrees_notified : List.Forall₂ Step.Rerouted calledRun notifiedRun ∧
    (((Registry.empty {}).session.run (calledRun.take 7)).step (.call (.query ⟨7⟩))).outcome =
      .failed .lockPoisoned ∧
    (((Registry.empty {}).session.run (calledRun.take 7)).step
      (.call (.query ⟨7⟩))).outcome.Delivers
        (((Registry.empty {}).session.run (notifiedRun.take 7)).step
          (.call (.dispatch (.exceptionQuery ⟨7⟩)))).outcome ∧
    (((Registry.empty {}).session.run (notifiedRun.take 7)).step
      (.call (.dispatch (.exceptionQuery ⟨7⟩)))).lines =
        (.trace, "exception-query: 0x0000000000000007".toList) ::
          (((Registry.empty {}).session.run (calledRun.take 7)).step
            (.call (.query ⟨7⟩))).lines := by
  have hsame := dispatch_agrees {} calledRun notifiedRun rerouted_notifiedRun
  exact ⟨rerouted_notifiedRun, rfl, hsame.delivers 7 (.exceptionQuery ⟨7⟩) rfl rfl,
    hsame.lines 7 (.exceptionQuery ⟨7⟩) rfl rfl⟩

end FaultWatch

/-
  FaultWatch/Proofs/Session/Failing.lean
  ======================================
  **Which steps fail, and that a failure leaves no trace.**

  Calls and lookups go to the table (`Step.asksTable`).  As long as the table is not
  poisoned, such a step fails for one reason only: it needs the record of a thread
  that is not registered.  It then says which thread that was, and changes nothing,
  just as a step that only looks; but if it was a call, there is one warning in the
  journal, with the words of the failure.

  What a step does when something stands in its way is said once
  (`Session.step_of_obstacle`), for every reason there is, so that the same lemma
  serves tables that are poisoned.
-/
import FaultWatch.Proofs.Registry.Refusal
import FaultWatch.Proofs.Session.Lifecycle

namespace FaultWatch

/-! ### Steps that go to the table -/

namespace Step

/-- The step is a call, or asks for a record. -/
def asksTable : Step → Bool
  | .call _ | .keep _ _ => true
  | .access _ _ | .same _ _ | .describe | .poison | .refused _ => false

/-- The thread whose record the step needs. -/
def needs? : Step → Option ThreadId
  | .call c => c.needs?
  | .keep _ t => some t
  | .access _ _ | .same _ _ | .describe | .poison | .refused _ => none

/-- The step is made to find something out, and not to change anything. -/
def onlyLooks : Step → Bool
  | .call c =>
    match c.direct with
    | .create _ | .destroy _ | .release | .write _ _ => false
    | _ => true
  | .keep _ _ | .same _ _ | .describe => true
  | .access _ _ | .poison | .refused _ => false

/-- What stands in the way of a step that goes to the table. -/
def obstacle? (r : Registry) : Step → Option Failure
  | .call c => c.obstacle? r
  | .keep _ t => (Call.query t).obstacle? r
  | .access _ _ | .same _ _ | .describe | .poison | .refused _ => none

/-- What the step writes in the journal when it is refused. -/
def complaint : Step → Failure → List Entry
  | .call c, f => c.complaint f
  | _, _ => []

theorem obstacle?_eq_some_iff {r : Registry} (hp : r.table.poisoned = false) {st : Step}
    (hst : st.asksTable = true) (f : Failure) :
    st.obstacle? r = some f ↔
      ∃ t, st.needs? = some t ∧ ¬ (r.ref? t).isSome = true ∧ f = .unknownThread t := by
  cases st with
  | call c => exact Call.obstacle?_eq_some_iff hp c f
  | keep slot t => exact Call.obstacle?_eq_some_iff hp (.query t) f
  | access | same | describe | poison | refused => simp [asksTable] at hst

/-- The lock stands in the way of whatever goes to the table, and of nothing else. -/
theorem obstacle?_eq_lockPoisoned_iff {r : Registry} {st : Step}
    (hst : st.asksTable = true) :
    st.obstacle? r = some .lockPoisoned ↔ r.table.poisoned = true := by
  cases hp : r.table.poisoned with
  | true =>
    cases st with
    | call c => simp [obstacle?, Call.obstacle?_of_poisoned hp]
    | keep slot t => simp [obstacle?, Call.obstacle?_of_poisoned hp]
    | access | same | describe | poison | refused => simp [asksTable] at hst
  | false =>
    rw [obstacle?_eq_some_iff hp hst]
    simp

end Step

namespace Session

/-- **A step that something stands in the way of fails with it and changes
    nothing.** -/
theorem step_of_obstacle {s : Session} {st : Step} {f : Failure}
    (h : st.obstacle? s.registry = some f) : s.step st = ⟨.failed f, st.complaint f, s⟩ := by
  cases st with
  | call c => simp only [step, Call.run_of_obstacle h, Outcome.ofResult, Step.complaint]
  | keep slot t =>
    have hl : s.registry.lookup t = .error f :=
      (Registry.lookup_eq_error_iff (c := .query t) rfl).mpr h
    simp only [step, hl, Step.complaint]
  | access | same | describe | poison | refused => simp [Step.obstacle?] at h

theorem step_of_no_obstacle {s : Session} {st : Step} (hst : st.asksTable = true)
    (h : st.obstacle? s.registry = none) :
    (∃ a, (s.step st).outcome = .answered a) ∧ ∀ e ∈ (s.step st).log, e.level ≠ .warn := by
  cases st with
  | call c =>
    obtain ⟨⟨a, ha⟩, hlog⟩ := Call.run_of_no_obstacle h
    exact ⟨⟨a, by simp only [step, ha, Outcome.ofResult]⟩, hlog⟩
  | keep slot t =>
    cases hl : s.registry.lookup t with
    | ok ref =>
      exact ⟨⟨.info (s.registry.infoAt ref), by simp only [step, hl]⟩, by simp [step, hl]⟩
    | error f =>
      have hsome : (Call.query t).obstacle? s.registry = some f :=
        (Registry.lookup_eq_error_iff rfl).mp hl
      simp [Step.obstacle?, hsome] at h
  | access | same | describe | poison | refused => simp [Step.asksTable] at hst

theorem registry_step_of_onlyLooks (s : Session) {st : Step} (hst : st.onlyLooks = true) :
    (s.step st).after.registry = s.registry := by
  rw [registry_step]
  cases st with
  | call c =>
    have hch : s.change (.call c) = .idle := by
      simp only [Step.onlyLooks] at hst
      unfold change Call.change
      cases hdirect : c.direct with
      | create | destroy | release | write => simp [hdirect] at hst
      | query | contains | size | isEmpty | threads | pendingThreads | anyPending
      | anyPendingStatus | dispatch => simp only [hdirect]
    rw [hch]
    rfl
  | keep | same | describe => rfl
  | access | poison | refused => simp [Step.onlyLooks] at hst

end Session

/-! ### What is written about failures -/

/-- The warnings of a turn, as they are written. -/
def Turn.warnings (turn : Turn) : List Text :=
  (turn.log.filter fun e => e.level = .warn).map Entry.text

theorem Turn.warnings_eq_nil {turn : Turn} (h : ∀ e ∈ turn.log, e.level ≠ .warn) :
    turn.warnings = [] := by
  simpa [Turn.warnings] using h

/-- The warnings that are due for a step with this outcome: a call that fails warns
    once, in the words of its failure, and nothing else does. -/
def Step.dueWarnings : Step → Outcome → List Text
  | .call _, .failed f => [f.message]
  | _, _ => []

theorem Call.filter_notice (c : Call) : c.notice.filter (fun e => e.level = .warn) = [] := by
  cases c <;> simp [Call.notice, Entry.level]

theorem Call.filter_complaint {c : Call} {t : ThreadId} (hn : c.needs? = some t) (f : Failure) :
    (c.complaint f).filter (fun e => e.level = .warn) = [.failed f] := by
  rw [Call.complaint, List.filter_append, c.filter_notice, hn]
  rfl

/-! ### Failing on a table that is not poisoned -/

/-- The step fails exactly if it needs the record of a thread that is not live, and
    its failure leaves no trace but a warning. -/
structure Session.FailsExactly (s : Session) (live : ThreadId → Prop) (st : Step) : Prop where
  failed_iff : ∀ f, (s.step st).outcome = .failed f ↔
    ∃ t, st.needs? = some t ∧ ¬ live t ∧ f = .unknownThread t
  answered_iff : (∃ a, (s.step st).outcome = .answered a) ↔
    ∀ t, st.needs? = some t → live t
  /-- Neither the registry nor the slots are changed by a failure. -/
  after_of_failed : ∀ f, (s.step st).outcome = .failed f → (s.step st).after = s
  registry_of_onlyLooks : st.onlyLooks = true → (s.step st).after.registry = s.registry
  warnings : (s.step st).warnings = st.dueWarnings (s.step st).outcome

namespace Session

variable {s : Session} {st : Step}

theorem failed_iff_obstacle? (hst : st.asksTable = true) (f : Failure) :
    (s.step st).outcome = .failed f ↔ st.obstacle? s.registry = some f := by
  cases ho : st.obstacle? s.registry with
  | none =>
    obtain ⟨a, ha⟩ := (step_of_no_obstacle hst ho).1
    simp [ha]
  | some g => simp [step_of_obstacle ho]

theorem answered_iff_obstacle? (hst : st.asksTable = true) :
    (∃ a, (s.step st).outcome = .answered a) ↔ st.obstacle? s.registry = none := by
  cases ho : st.obstacle? s.registry with
  | none => simpa using (step_of_no_obstacle hst ho).1
  | some g => simp [step_of_obstacle ho]

theorem warnings_of_usable (hp : s.registry.table.poisoned = false)
    (hst : st.asksTable = true) :
    (s.step st).warnings = st.dueWarnings (s.step st).outcome := by
  cases ho : st.obstacle? s.registry with
  | none =>
    obtain ⟨⟨a, ha⟩, hlog⟩ := step_of_no_obstacle hst ho
    rw [Turn.warnings_eq_nil hlog, ha]
    cases st <;> rfl
  | some f =>
    obtain ⟨t, hn, -, -⟩ := (Step.obstacle?_eq_some_iff hp hst f).mp ho
    rw [step_of_obstacle ho]
    cases st with
    | call c =>
      have hneeds : c.needs? = some t := hn
      simp only [Turn.warnings, Step.complaint, Call.filter_complaint hneeds]
      rfl
    | keep slot t => rfl
    | access | same | describe | poison | refused => simp [Step.asksTable] at hst

theorem failsExactly_of_usable (hp : s.registry.table.poisoned = false)
    (hst : st.asksTable = true) :
    s.FailsExactly (fun t => (s.registry.ref? t).isSome = true) st where
  failed_iff f := by rw [failed_iff_obstacle? hst, Step.obstacle?_eq_some_iff hp hst]
  answered_iff := by
    rw [answered_iff_obstacle? hst, Option.eq_none_iff_forall_ne_some]
    simp only [ne_eq, Step.obstacle?_eq_some_iff hp hst]
    constructor
    · intro h t hn
      by_contra hlive
      exact h (.unknownThread t) ⟨t, hn, hlive, rfl⟩
    · rintro h f ⟨t, hn, hlive, -⟩
      exact hlive (h t hn)
  after_of_failed f hf := by rw [step_of_obstacle ((failed_iff_obstacle? hst f).mp hf)]
  registry_of_onlyLooks := s.registry_step_of_onlyLooks
  warnings := warnings_of_usable hp hst

end Session

/-- **Failures are exact and leave no trace.**  As long as the table has not been
    poisoned, a step that goes to the table fails exactly if it needs the record of a
    thread that the run has not left registered. -/
theorem failures_exact (c : Config) (before : List Step) (hp : .poison ∉ before) (st : Step)
    (hst : st.asksTable = true) :
    ((Registry.empty c).session.run before).FailsExactly (Live before) st := by
  have hlive : (fun t => (((Registry.empty c).after before).ref? t).isSome = true) =
      Live before := funext fun t => propext (members_run c hp t)
  rw [← hlive]
  exact Session.failsExactly_of_usable (usable_of_not_mem hp) hst

/-- A thread that was replaced and is gone, with a record of it kept. -/
def goneRun : List Step :=
  [.call (.create ⟨7⟩), .keep ['k'] ⟨7⟩, .call (.create ⟨7⟩), .access ['k'] (.write .raise),
    .call (.dispatch (.threadDestroyed ⟨7⟩))]

theorem failures_exact_gone : .poison ∉ goneRun ∧
    Step.asksTable (.call (.dispatch (.exceptionThrown ⟨7⟩))) = true ∧
    ((Registry.empty {}).session.run goneRun).FailsExactly (Live goneRun)
      (.call (.dispatch (.exceptionThrown ⟨7⟩))) ∧
    (((Registry.empty {}).session.run goneRun).step
      (.call (.dispatch (.exceptionThrown ⟨7⟩)))).outcome = .failed (.unknownThread ⟨7⟩) :=
  ⟨by decide, rfl, failures_exact {} goneRun (by decide) _ rfl, rfl⟩

end FaultWatch

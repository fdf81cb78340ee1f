/-
  FaultWatch/Proofs/Registry/Refusal.lean
  =======================================
  **When a call is refused, and what is left of it.**

  Two things can stand in the way of a call (`Call.obstacle?`): the table is
  poisoned, or the call needs the record of a thread that is not registered.  If one
  does, the call fails with it and leaves the registry as it was, and all that is
  left is in the journal: the notice of a notification, and a warning if the call is
  one of those that need a record (`Call.run_of_obstacle`).  If none does, the call
  succeeds and warns of nothing (`Call.run_of_no_obstacle`).

  A dispatched notification is the direct call with a notice in front
  (`Call.run_dispatch`), so both are proved of direct calls first.
-/
import FaultWatch.Proofs.Registry.Members

namespace FaultWatch

open Registry

/-! ### Dispatching -/

/-- The answer to a direct call as it is handed out for a notification. -/
def Answer.delivery : Answer → Answer
  | .info i => .delivered (some i)
  | _ => .delivered none

/-- The notice that a notification came in. -/
def Call.notice : Call → List Entry
  | .dispatch n => [.received n.kind n.thread]
  | _ => []

theorem Notification.call_ne_dispatch (n m : Notification) : n.call ≠ .dispatch m := by
  cases n <;> simp [Notification.call]

theorem Notification.notice_call (n : Notification) : n.call.notice = [] := by
  cases n <;> rfl

/-- Only a query brings something back. -/
theorem map_delivered_none {α : Type} (result : Except Failure α) :
    (result.map fun _ => none).map Answer.delivered =
      (result.map fun _ => Answer.done).map Answer.delivery := by
  cases result <;> rfl

theorem map_delivered_some (result : Except Failure Info) :
    (result.map some).map Answer.delivered = (result.map Answer.info).map Answer.delivery := by
  cases result <;> rfl

/-- **A dispatched notification is the direct call, with a notice in front.** -/
theorem Call.run_dispatch (r : Registry) (n : Notification) :
    (Call.dispatch n).run r =
      { result := (n.call.run r).result.map Answer.delivery
        registry := (n.call.run r).registry
        log := .received n.kind n.thread :: (n.call.run r).log } := by
  cases n with
  | exceptionQuery t =>
    simp only [Call.run, Registry.dispatch, Notification.call, Reply.map, map_delivered_some]
  | threadCreated | threadDestroyed | exceptionCleared | exceptionThrown
  | exceptionCatcherFound =>
    simp only [Call.run, Registry.dispatch, Notification.call, Reply.map, map_delivered_none]

/-! ### Obstacles -/

/-- The thread whose record the call needs. -/
def Call.needs? (c : Call) : Option ThreadId :=
  match c.direct with
  | .write t _ | .query t => some t
  | _ => none

/-- What stands in the way of the call, a poisoned table before anything else. -/
def Call.obstacle? (r : Registry) (c : Call) : Option Failure :=
  if r.table.poisoned then some .lockPoisoned
  else
    match c.needs? with
    | some t => if (r.ref? t).isSome then none else some (.unknownThread t)
    | none => none

/-- What a call that is refused writes in the journal. -/
def Call.complaint (c : Call) (f : Failure) : List Entry :=
  c.notice ++ if c.needs?.isSome then [.failed f] else []

theorem Call.obstacle?_of_poisoned {r : Registry} (hp : r.table.poisoned = true) (c : Call) :
    c.obstacle? r = some .lockPoisoned := by
  simp [Call.obstacle?, hp]

theorem Call.obstacle?_eq_some_iff {r : Registry} (hp : r.table.poisoned = false) (c : Call)
    (f : Failure) :
    c.obstacle? r = some f ↔
      ∃ t, c.needs? = some t ∧ ¬ (r.ref? t).isSome = true ∧ f = .unknownThread t := by
  cases hn : c.needs? with
  | none => simp [Call.obstacle?, hp, hn]
  | some t =>
    have hsymm : Failure.unknownThread t = f ↔ f = .unknownThread t := eq_comm
    cases href : r.ref? t <;> simp [Call.obstacle?, hp, hn, href, hsymm]

theorem Call.needs?_dispatch (n : Notification) : (Call.dispatch n).needs? = n.call.needs? := by
  cases n <;> rfl

theorem Call.obstacle?_dispatch (r : Registry) (n : Notification) :
    (Call.dispatch n).obstacle? r = n.call.obstacle? r := by
  simp only [Call.obstacle?, Call.needs?_dispatch]

namespace Registry

/-- The record of a thread is found exactly if nothing stands in the way of a call
    that needs it. -/
theorem lookup_eq_error_iff {r : Registry} {c : Call} {t : ThreadId} {f : Failure}
    (hn : c.needs? = some t) : r.lookup t = .error f ↔ c.obstacle? r = some f := by
  cases hp : r.table.poisoned with
  | true =>
    rw [lookup_of_poisoned hp, Call.obstacle?_of_poisoned hp]
    simp
  | false =>
    rw [lookup_of_usable hp, Call.obstacle?, hn]
    cases href : r.ref? t <;> simp [hp, href]

theorem lock_eq_error {r : Registry} {c : Call} {f : Failure} (hn : c.needs? = none)
    (h : c.obstacle? r = some f) : r.table.lock = .error f := by
  cases hp : r.table.poisoned with
  | true =>
    rw [Call.obstacle?_of_poisoned hp] at h
    rw [Guarded.lock_eq_error_iff]
    exact ⟨hp, (Option.some.inj h).symm⟩
  | false => simp [Call.obstacle?, hp, hn] at h

theorem usable_of_no_obstacle {r : Registry} {c : Call} (h : c.obstacle? r = none) :
    r.table.poisoned = false := by
  cases hp : r.table.poisoned with
  | true => simp [Call.obstacle?_of_poisoned hp] at h
  | false => rfl

end Registry

/-! ### A call that is refused -/

theorem Call.run_of_obstacle_direct {r : Registry} {c : Call} {f : Failure}
    (hc : ∀ n, c ≠ .dispatch n) (h : c.obstacle? r = some f) :
    c.run r = ⟨.error f, r, c.complaint f⟩ := by
  cases c with
  | dispatch n => exact absurd rfl (hc n)
  | write t w =>
    have hl : r.lookup t = .error f := (lookup_eq_error_iff rfl).mpr h
    simp [Call.run, Registry.write, withRecord, hl, Reply.map, Except.map, Call.complaint,
      Call.notice, Call.needs?, Call.direct]
  | query t =>
    have hl : r.lookup t = .error f := (lookup_eq_error_iff rfl).mpr h
    simp [Call.run, Registry.query, withRecord, hl, Reply.map, Except.map, Call.complaint,
      Call.notice, Call.needs?, Call.direct]
  | create t =>
    have hl : r.table.lock = .error f := lock_eq_error rfl h
    simp [Call.run, Registry.create, hl, Reply.map, Except.map, Call.complaint, Call.notice,
      Call.needs?, Call.direct]
  | destroy t =>
    have hl : r.table.lock = .error f := lock_eq_error rfl h
    simp [Call.run, Registry.destroy, hl, Reply.map, Except.map, Call.complaint, Call.notice,
      Call.needs?, Call.direct]
  | release =>
    have hl : r.table.lock = .error f := lock_eq_error rfl h
    simp [Call.run, Registry.release, hl, Reply.map, Except.map, Call.complaint, Call.notice,
      Call.needs?, Call.direct]
  | contains | size | isEmpty | threads | pendingThreads | anyPending | anyPendingStatus =>
    have hl : r.table.lock = .error f := lock_eq_error rfl h
    simp [Call.run, Reply.look, Registry.contains, Registry.size, Registry.isEmpty,
      Registry.threads, Registry.pendingThreads, Registry.anyPending,
      Registry.anyPendingStatus, entries, hl, Except.map, Call.complaint, Call.notice,
      Call.needs?, Call.direct]

/-- **A call that is refused fails with what stands in its way**, leaves the registry
    as it was, and complains once if it needed a record. -/
theorem Call.run_of_obstacle {r : Registry} {c : Call} {f : Failure}
    (h : c.obstacle? r = some f) : c.run r = ⟨.error f, r, c.complaint f⟩ := by
  cases c with
  | dispatch n =>
    rw [Call.obstacle?_dispatch] at h
    rw [Call.run_dispatch, Call.run_of_obstacle_direct n.call_ne_dispatch h]
    simp only [Except.map, Call.complaint, Call.needs?_dispatch, n.notice_call]
    rfl
  | _ => exact Call.run_of_obstacle_direct (by simp) h

/-! ### A call that is not refused -/

theorem Config.level_lifecycle {c : Config} {entries : List Entry}
    (h : ∀ e ∈ entries, e.level = .debug) : ∀ e ∈ c.lifecycle entries, e.level = .debug := by
  unfold Config.lifecycle
  split
  · exact h
  · simp

theorem Call.run_of_no_obstacle_direct {r : Registry} {c : Call} (hc : ∀ n, c ≠ .dispatch n)
    (h : c.obstacle? r = none) :
    (∃ a, (c.run r).result = .ok a) ∧ ∀ e ∈ (c.run r).log, e.level = .debug := by
  have hlock : r.table.lock = .ok r.table.value := lock_of_usable (usable_of_no_obstacle h)
  have hfound : ∀ t, c.needs? = some t → ∃ ref, r.lookup t = .ok ref := by
    intro t hn
    cases hl : r.lookup t with
    | ok ref => exact ⟨ref, rfl⟩
    | error f => simp [(lookup_eq_error_iff hn).mp hl] at h
  cases c with
  | dispatch n => exact absurd rfl (hc n)
  | write t w =>
    obtain ⟨ref, hl⟩ := hfound t rfl
    simp [Call.run, Registry.write, withRecord, hl, Reply.map, Except.map]
  | query t =>
    obtain ⟨ref, hl⟩ := hfound t rfl
    simp [Call.run, Registry.query, withRecord, hl, Reply.map, Except.map]
  | create t =>
    refine ⟨⟨.done, by simp [Call.run, Registry.create, hlock, Reply.map, Except.map]⟩, ?_⟩
    simp only [Call.run, Registry.create, hlock, Reply.map]
    apply Config.level_lifecycle
    by_cases ht : t ∈ r.table.value <;> simp [ht, Entry.level]
  | destroy t =>
    refine ⟨⟨.done, by simp [Call.run, Registry.destroy, hlock, Reply.map, Except.map]⟩, ?_⟩
    simp only [Call.run, Registry.destroy, hlock, Reply.map]
    apply Config.level_lifecycle
    by_cases ht : t ∈ r.table.value <;> simp [ht, Entry.level]
  | release =>
    simp [Call.run, Registry.release, hlock, Reply.map, Except.map, Entry.level]
  | contains | size | isEmpty | threads | pendingThreads | anyPending | anyPendingStatus =>
    simp [Call.run, Reply.look, Registry.contains, Registry.size, Registry.isEmpty,
      Registry.threads, Registry.pendingThreads, Registry.anyPending,
      Registry.anyPendingStatus, entries, hlock, Except.map]

/-- **A call that is not refused succeeds and warns of nothing.** -/
theorem Call.run_of_no_obstacle {r : Registry} {c : Call} (h : c.obstacle? r = none) :
    (∃ a, (c.run r).result = .ok a) ∧ ∀ e ∈ (c.run r).log, e.level ≠ .warn := by
  cases c with
  | dispatch n =>
    rw [Call.obstacle?_dispatch] at h
    obtain ⟨⟨a, ha⟩, hlog⟩ := Call.run_of_no_obstacle_direct n.call_ne_dispatch h
    rw [Call.run_dispatch]
    refine ⟨⟨a.delivery, by simp [ha, Except.map]⟩, ?_⟩
    intro e he
    rcases List.mem_cons.mp he with rfl | he
    · simp [Entry.level]
    · simp [hlog e he]
  | _ =>
    obtain ⟨hok, hlog⟩ := Call.run_of_no_obstacle_direct (by simp) h
    exact ⟨hok, fun e he => by simp [hlog e he]⟩

end FaultWatch

/-
  FaultWatch/Proofs/Session/Configured.lean
  =========================================
  **What the configuration has a part in.**

  Two registries that are set up differently are the same to their callers: the same
  steps get the same answers and lead to the same table, records and slots.  The
  configuration stays what it was set to, and shows in two places only.  One is the
  written form of the registry.  The other is the journal: if lifecycle lines are not
  wanted, the debug lines of creations and destructions are left out (`Step.hush`), and
  nothing else is; in particular the line about released records stays.  How much room is
  asked for decides only whether there is a registry at all (`Config.fits_iff`).

  So a session with another configuration is the session with its configuration
  replaced (`Session.withConfig`), and one step is enough to see this
  (`Session.after_withConfig`).
-/
import FaultWatch.Proofs.Registry.Enumeration
import FaultWatch.Proofs.Registry.Room
import FaultWatch.Proofs.Session.Told

namespace FaultWatch

/-! ### Lifecycle lines -/

namespace Step

/-- The step creates or destroys a thread, directly or by a notification. -/
def startsOrEnds (st : Step) : Bool :=
  match st.call? with
  | some (.create _) | some (.destroy _) => true
  | _ => false

/-- What is left of what a step writes if lifecycle lines are not wanted: the debug
    lines of a creation or a destruction are left out. -/
def hush (st : Step) (log : List Entry) : List Entry :=
  if st.startsOrEnds then log.filter fun e => e.level ≠ .debug else log

/-- What a step writes under one configuration and what it writes under another. -/
structure LogsAlike (st : Step) (c c' : Config) (log log' : List Entry) : Prop where
  same : c.logLifecycle = c'.logLifecycle → log' = log
  hushed : c.logLifecycle = true → c'.logLifecycle = false → log' = st.hush log

variable {st : Step} {c c' : Config}

theorem logsAlike_self (hst : st.startsOrEnds = false) (c c' : Config) (log : List Entry) :
    st.LogsAlike c c' log log := by
  constructor
  · intro _
    rfl
  · intro _ _
    simp [hush, hst]

theorem logsAlike_nil (st : Step) (c c' : Config) : st.LogsAlike c c' [] [] := by
  constructor
  · intro _
    rfl
  · intro _ _
    simp [hush]

/-- The lifecycle lines are all that is left out. -/
theorem logsAlike_lifecycle (hst : st.startsOrEnds = true) (c c' : Config)
    {entries : List Entry} (h : ∀ e ∈ entries, e.level = .debug) :
    st.LogsAlike c c' (c.lifecycle entries) (c'.lifecycle entries) := by
  constructor
  · intro heq
    rw [Config.lifecycle, Config.lifecycle, heq]
  · intro _ hquiet
    have hnone : (c.lifecycle entries).filter (fun e => e.level ≠ .debug) = [] := by
      rw [List.filter_eq_nil_iff]
      intro e he
      simpa using Config.level_lifecycle h e he
    rw [hush, if_pos hst, hnone, Config.lifecycle, hquiet]
    rfl

theorem LogsAlike.cons {log log' : List Entry} (h : st.LogsAlike c c' log log') {e : Entry}
    (he : e.level ≠ .debug) : st.LogsAlike c c' (e :: log) (e :: log') := by
  constructor
  · intro heq
    rw [h.same heq]
  · intro hloud hquiet
    rw [h.hushed hloud hquiet]
    cases hst : st.startsOrEnds <;> simp [hush, hst, he]

theorem logsAlike_dispatch_iff {n : Notification} {log log' : List Entry} :
    (Step.call (.dispatch n)).LogsAlike c c' log log' ↔
      (Step.call n.call).LogsAlike c c' log log' := by
  have hush : (Step.call (.dispatch n)).hush = (Step.call n.call).hush := by cases n <;> rfl
  constructor
  · rintro ⟨hsame, hhushed⟩
    exact ⟨hsame, by rwa [← hush]⟩
  · rintro ⟨hsame, hhushed⟩
    exact ⟨hsame, by rwa [hush]⟩

end Step

/-! ### Registries -/

namespace Registry

def withConfig (r : Registry) (c : Config) : Registry := { r with config := c }

variable {r : Registry}

theorem apply_withConfig (r : Registry) (c : Config) (ch : Change) :
    (r.withConfig c).apply ch = (r.apply ch).withConfig c := by
  cases ch <;> rfl

theorem result_create (r : Registry) (t : ThreadId) :
    (r.create t).result = r.table.lock.map fun _ => () := by
  cases hl : r.table.lock <;> simp only [create, hl, Except.map]

theorem result_destroy (r : Registry) (t : ThreadId) :
    (r.destroy t).result = r.table.lock.map fun _ => () := by
  cases hl : r.table.lock <;> simp only [destroy, hl, Except.map]

theorem result_release (r : Registry) :
    r.release.result = r.table.lock.map fun _ => () := by
  cases hl : r.table.lock <;> simp only [release, hl, Except.map]

theorem log_withRecord {α : Type} (r : Registry) (t : ThreadId)
    (use : RecordRef → α × Registry) :
    (r.withRecord t use).log =
      match r.lookup t with
      | .ok _ => []
      | .error f => [.failed f] := by
  cases hl : r.lookup t <;> simp only [withRecord, hl]

theorem log_release (r : Registry) :
    r.release.log =
      match r.table.lock with
      | .ok table => [.released table.size]
      | .error _ => [] := by
  cases hl : r.table.lock <;> simp only [release, hl]

theorem result_run_withConfig_direct {call : Call} (hcall : ∀ n, call ≠ .dispatch n)
    (r : Registry) (c : Config) : (call.run (r.withConfig c)).result = (call.run r).result := by
  cases call with
  | dispatch n => exact absurd rfl (hcall n)
  | create t =>
    simp only [Call.run, Reply.map, result_create]
    rfl
  | destroy t =>
    simp only [Call.run, Reply.map, result_destroy]
    rfl
  | release =>
    simp only [Call.run, Reply.map, result_release]
    rfl
  | write t w =>
    simp only [Call.run, Reply.map, result_write]
    rfl
  | query t =>
    simp only [Call.run, Reply.map, result_query]
    rfl
  | contains | size | isEmpty | threads | pendingThreads | anyPending | anyPendingStatus => rfl

/-- **What a call results in does not depend on the configuration.** -/
theorem result_run_withConfig (r : Registry) (c : Config) (call : Call) :
    (call.run (r.withConfig c)).result = (call.run r).result := by
  cases call with
  | dispatch n =>
    rw [Call.run_dispatch, Call.run_dispatch]
    exact congrArg (Except.map Answer.delivery)
      (result_run_withConfig_direct n.call_ne_dispatch r c)
  | _ => exact result_run_withConfig_direct (by simp) r c

theorem logsAlike_run_direct {call : Call} (hcall : ∀ n, call ≠ .dispatch n) (r : Registry)
    (c : Config) :
    (Step.call call).LogsAlike r.config c (call.run r).log (call.run (r.withConfig c)).log := by
  have hlock : (r.withConfig c).table.lock = r.table.lock := rfl
  cases call with
  | dispatch n => exact absurd rfl (hcall n)
  | create t =>
    simp only [Call.run, Reply.map, create, hlock]
    cases r.table.lock with
    | error f => exact Step.logsAlike_nil _ _ _
    | ok table =>
      apply Step.logsAlike_lifecycle rfl
      by_cases ht : t ∈ table <;> simp [ht, Entry.level]
  | destroy t =>
    simp only [Call.run, Reply.map, destroy, hlock]
    cases r.table.lock with
    | error f => exact Step.logsAlike_nil _ _ _
    | ok table =>
      apply Step.logsAlike_lifecycle rfl
      by_cases ht : t ∈ table <;> simp [ht, Entry.level]
  | write t w =>
    simp only [Call.run, Reply.map, write, log_withRecord]
    exact Step.logsAlike_self rfl _ _ _
  | query t =>
    simp only [Call.run, Reply.map, query, log_withRecord]
    exact Step.logsAlike_self rfl _ _ _
  | release =>
    simp only [Call.run, Reply.map, log_release]
    exact Step.logsAlike_self rfl _ _ _
  | contains | size | isEmpty | threads | pendingThreads | anyPending | anyPendingStatus =>
    exact Step.logsAlike_self rfl _ _ _

/-- **Of what a call writes, the configuration only decides the lifecycle lines.** -/
theorem logsAlike_run (r : Registry) (c : Config) (call : Call) :
    (Step.call call).LogsAlike r.config c (call.run r).log (call.run (r.withConfig c)).log := by
  cases call with
  | dispatch n =>
    rw [Call.run_dispatch, Call.run_dispatch, Step.logsAlike_dispatch_iff]
    apply Step.LogsAlike.cons (logsAlike_run_direct n.call_ne_dispatch r c)
    simp [Entry.level]
  | _ => exact logsAlike_run_direct (by simp) r c

end Registry

/-! ### Sessions -/

namespace Session

/-- The session as it were, had its registry been set up with the configuration. -/
def withConfig (s : Session) (c : Config) : Session :=
  { s with registry := s.registry.withConfig c }

variable {s : Session} {st : Step}

theorem after_withConfig (s : Session) (c : Config) (st : Step) :
    ((s.withConfig c).step st).after = (s.step st).after.withConfig c := by
  have hregistry : ((s.withConfig c).step st).after.registry =
      (s.step st).after.registry.withConfig c := by
    rw [registry_step, registry_step]
    exact s.registry.apply_withConfig c _
  have hslots : ((s.withConfig c).step st).after.slots = (s.step st).after.slots :=
    slots_step_congr rfl fun _ _ _ => rfl
  exact congrArg₂ Session.mk hregistry hslots

/-- Only calls and the written form of the registry look at the configuration. -/
theorem told_withConfig (hcall : ∀ call, st ≠ .call call) (hst : st ≠ .describe) (s : Session)
    (c : Config) : ((s.withConfig c).step st).told = (s.step st).told := by
  apply FindsSame.told_step
  refine ⟨rfl, ?_, fun _ => rfl, fun _ _ => rfl, fun _ _ => rfl, ?_⟩
  · intro call heq
    exact absurd heq (hcall call)
  · intro heq
    exact absurd heq hst

theorem outcome_withConfig (hst : st ≠ .describe) (s : Session) (c : Config) :
    ((s.withConfig c).step st).outcome = (s.step st).outcome := by
  cases st with
  | call call => exact congrArg Outcome.ofResult (s.registry.result_run_withConfig c call)
  | _ => exact congrArg Prod.fst (told_withConfig (by simp) hst s c)

theorem logsAlike_step (s : Session) (c : Config) (st : Step) :
    st.LogsAlike s.registry.config c (s.step st).log ((s.withConfig c).step st).log := by
  by_cases hcall : ∃ call, st = .call call
  · obtain ⟨call, rfl⟩ := hcall
    exact s.registry.logsAlike_run c call
  · have hnot : ∀ call, st ≠ .call call := fun call heq => hcall ⟨call, heq⟩
    rw [log_of_not_call hnot, log_of_not_call hnot]
    exact Step.logsAlike_nil st _ _

/-! ### Runs -/

theorem run_withConfig (s : Session) (c : Config) (steps : List Step) :
    (s.withConfig c).run steps = (s.run steps).withConfig c := by
  induction steps generalizing s with
  | nil => rfl
  | cons st rest ih => rw [run_cons, run_cons, after_withConfig, ih]

theorem logs_turns_of_same {c : Config} (s : Session)
    (h : s.registry.config.logLifecycle = c.logLifecycle) (steps : List Step) :
    ((s.withConfig c).turns steps).map Turn.log = (s.turns steps).map Turn.log := by
  induction steps generalizing s with
  | nil => rfl
  | cons st rest ih =>
    have hrest := ih (s.step st).after (by rw [config_step]; exact h)
    simp only [turns, List.map_cons, after_withConfig, hrest, (s.logsAlike_step c st).same h]

theorem logs_turns_of_hushed {c : Config} (s : Session)
    (h : s.registry.config.logLifecycle = true) (h' : c.logLifecycle = false)
    (steps : List Step) :
    ((s.withConfig c).turns steps).map Turn.log =
      List.zipWith Step.hush steps ((s.turns steps).map Turn.log) := by
  induction steps generalizing s with
  | nil => rfl
  | cons st rest ih =>
    have hrest := ih (s.step st).after (by rw [config_step]; exact h)
    simp only [turns, List.map_cons, List.zipWith_cons_cons, after_withConfig, hrest,
      (s.logsAlike_step c st).hushed h h']

end Session

/-! ### Two configurations -/

/-- Two registries, each with its configuration, are the same to those who take the
    steps. -/
structure Registry.SameForCallers (c c' : Config) (r r' : Registry) (steps : List Step) :
    Prop where
  /-- Each has the configuration it was set up with. -/
  config : (r.session.run steps).registry.config = c ∧
    (r'.session.run steps).registry.config = c'
  /-- All else is the same: who is registered, with which record, what is in the
      records, and what is kept in the slots. -/
  table : (r'.session.run steps).registry.table = (r.session.run steps).registry.table
  store : (r'.session.run steps).registry.store = (r.session.run steps).registry.store
  slots : (r'.session.run steps).slots = (r.session.run steps).slots
  /-- Whatever step comes next, its outcome is the same, unless the registry is written
      out. -/
  outcome : ∀ st, st ≠ .describe →
    ((r'.session.run steps).step st).outcome = ((r.session.run steps).step st).outcome
  /-- Nor does it matter in what order each table enumerates its entries. -/
  fleet : ∀ found found', (r.session.run steps).registry.Enumerates found →
    (r'.session.run steps).registry.Enumerates found' →
    (r'.session.run steps).registry.store.anyPending found' =
        (r.session.run steps).registry.store.anyPending found ∧
      (r'.session.run steps).registry.store.pendingThreads found' =
        (r.session.run steps).registry.store.pendingThreads found ∧
      threadsOf found' = threadsOf found
  /-- Turn by turn the same is written, if lifecycle lines are wanted in both or in
      neither. -/
  logs_same : c.logLifecycle = c'.logLifecycle →
    (r'.session.turns steps).map Turn.log = (r.session.turns steps).map Turn.log
  /-- If only the first wants them, the second leaves them out. -/
  logs_hushed : c.logLifecycle = true → c'.logLifecycle = false →
    (r'.session.turns steps).map Turn.log =
      List.zipWith Step.hush steps ((r.session.turns steps).map Turn.log)

theorem Registry.sameForCallers_empty (c c' : Config) (steps : List Step) :
    SameForCallers c c' (empty c) (empty c') steps := by
  have hsession : (empty c').session = (empty c).session.withConfig c' := rfl
  have hrun : (empty c').session.run steps =
      ((empty c).session.run steps).withConfig c' := by
    rw [hsession, Session.run_withConfig]
  refine ⟨⟨?_, ?_⟩, ?_, ?_, ?_, ?_, ?_, ?_, ?_⟩
  · exact Session.config_run _ steps
  · exact Session.config_run _ steps
  · rw [hrun]
    rfl
  · rw [hrun]
    rfl
  · rw [hrun]
    rfl
  · intro st hst
    rw [hrun]
    exact Session.outcome_withConfig hst _ c'
  · intro found found' hfound hfound'
    rw [hrun] at hfound' ⊢
    have hperm : found'.Perm found := hfound'.perm hfound rfl
    exact ⟨Store.anyPending_eq_of_perm _ hperm, Store.pendingThreads_eq_of_perm _ hperm,
      threadsOf_eq_of_perm hperm⟩
  · intro hsame
    rw [hsession]
    exact Session.logs_turns_of_same _ hsame steps
  · intro hloud hquiet
    rw [hsession]
    exact Session.logs_turns_of_hushed _ hloud hquiet steps

/-- **The configuration is immaterial but for lifecycle lines.**  Registries can be set
    up with any two configurations that ask for no more room than a table can have, and
    every run is the same on both. -/
theorem config_immaterial (c c' : Config) (h : c.capacity ≤ 7 * 2 ^ 55)
    (h' : c'.capacity ≤ 7 * 2 ^ 55) :
    ∃ r r', Registry.ofConfig c = .ok r ∧ Registry.ofConfig c' = .ok r' ∧
      ∀ steps, Registry.SameForCallers c c' r r' steps :=
  ⟨Registry.empty c, Registry.empty c', Registry.ofConfig_eq_ok_iff.mpr ⟨c.fits_iff.mpr h, rfl⟩,
    Registry.ofConfig_eq_ok_iff.mpr ⟨c'.fits_iff.mpr h', rfl⟩,
    Registry.sameForCallers_empty c c'⟩

/-- A thread is created twice, by a call and by a notification, looked for after it is
    gone, and destroyed once too often, before all records are released. -/
def churnRun : List Step :=
  [.call (.create ⟨7⟩), .call (.dispatch (.threadCreated ⟨7⟩)), .keep ['k'] ⟨7⟩,
    .call (.destroy ⟨7⟩), .call (.query ⟨7⟩), .call (.dispatch (.threadDestroyed ⟨7⟩)),
    .call .release]

/-- Without lifecycle lines and with hardly any room, the notifications, the warning
    and the release are still told, and nothing else. -/
theorem config_immaterial_churn :
    (64 ≤ 7 * 2 ^ 55 ∧ 1 ≤ 7 * 2 ^ 55) ∧
    ∃ r r', Registry.ofConfig {} = .ok r ∧ Registry.ofConfig ⟨1, false⟩ = .ok r' ∧
      Registry.SameForCallers {} ⟨1, false⟩ r r' churnRun ∧
      (r'.session.turns churnRun).map Turn.log =
        [[], [.received .threadCreated ⟨7⟩], [], [], [.failed (.unknownThread ⟨7⟩)],
          [.received .threadDestroyed ⟨7⟩], [.released 0]] := by
  refine ⟨⟨by decide, by decide⟩, ?_⟩
  obtain ⟨r, r', hr, hr', hsame⟩ := config_immaterial {} ⟨1, false⟩ (by decide) (by decide)
  refine ⟨r, r', hr, hr', hsame churnRun, ?_⟩
  rw [(hsame churnRun).logs_hushed rfl rfl]
  obtain rfl : Registry.empty {} = r := (Registry.ofConfig_eq_ok_iff.mp hr).2
  decide

/-- Below 2 to the power of 60 there are capacities that no table can have, half of it
    being one: the table would need 2 to the power of 60 slots of sixteen bytes. -/
theorem config_immaterial_overflow :
    (2 ^ 59 < 2 ^ 60 ∧ slotsFor (2 ^ 59) = 2 ^ 60 ∧
      Registry.ofConfig ⟨2 ^ 59, true⟩ = .error .capacityOverflow) ∧
    ¬ ∀ c c' : Config, c.capacity < 2 ^ 60 → c'.capacity < 2 ^ 60 →
      ∃ r r', Registry.ofConfig c = .ok r ∧ Registry.ofConfig c' = .ok r' ∧
        ∀ steps, Registry.SameForCallers c c' r r' steps := by
  have hroom : ¬ Config.Fits ⟨2 ^ 59, true⟩ := by
    rw [Config.fits_iff]
    decide
  have hover : Registry.ofConfig ⟨2 ^ 59, true⟩ = .error .capacityOverflow :=
    Registry.ofConfig_eq_error_iff.mpr hroom
  refine ⟨⟨by decide, by decide, hover⟩, ?_⟩
  intro hall
  obtain ⟨r, r', hr, -⟩ := hall ⟨2 ^ 59, true⟩ {} (by decide) (by decide)
  exact hroom (Registry.ofConfig_eq_ok_iff.mp hr).1

end FaultWatch

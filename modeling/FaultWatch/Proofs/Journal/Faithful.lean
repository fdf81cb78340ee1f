/-
  FaultWatch/Proofs/Journal/Faithful.lean
  =======================================
  **The journal tells who is registered.**

  If lifecycle lines are wanted, the journal alone is enough to know who is registered at
  any time.  A reader that goes by levels and texts, adding and removing threads as it is
  told (`readLine`), always has the threads that the registry would list.  And it knows
  beforehand what the next step will write (`Step.account`): whether a creation replaces
  a record, a destruction finds nothing, how many records a release lets go, and which
  calls complain about an unknown thread.

  The proof has the reader and the table keep in step.  Read as entries, the account of a
  step changes the reader's set (`mem_foldl_roll_account`) in the same way as the step
  changes the table (`isSome_ref?_step_iff`).
-/
import FaultWatch.Proofs.Journal.Line
import FaultWatch.Proofs.Registry.Refusal
import FaultWatch.Proofs.Session.Lifecycle
import FaultWatch.Proofs.Session.Told
import Mathlib.Data.Finset.Card

namespace FaultWatch

/-! ### Reading -/

/-- Who is registered after what the entry tells, if they were before. -/
def Entry.roll (live : Finset ThreadId) : Entry → Finset ThreadId
  | .created t => insert t live
  | .destroyed t => live.erase t
  | .released _ => ∅
  | .received _ _ | .recordReset _ | .notRegistered _ | .failed _ => live

def readLine (live : Finset ThreadId) (line : Level × Text) : Finset ThreadId :=
  match Entry.ofLine? line with
  | some e => e.roll live
  | none => live

/-- The threads that are registered by what the lines say, from the first one on. -/
def membersRead (lines : List (Level × Text)) : Finset ThreadId := lines.foldl readLine ∅

theorem readLine_line (live : Finset ThreadId) (e : Entry) : readLine live e.line = e.roll live := by
  have hread : Entry.ofLine? e.line = some e := (Entry.ofLine?_eq_some_iff _ e).mpr rfl
  rw [readLine, hread]

theorem foldl_readLine (live : Finset ThreadId) (log : List Entry) :
    (log.map Entry.line).foldl readLine live = log.foldl Entry.roll live := by
  induction log generalizing live with
  | nil => rfl
  | cons e rest ih => rw [List.map_cons, List.foldl_cons, readLine_line, ih, List.foldl_cons]

/-- The reader follows these rules, and no others. -/
structure ReadsMembers (read : Finset ThreadId → Level × Text → Finset ThreadId) : Prop where
  created : ∀ live (t : ThreadId),
    read live (.debug, "Thread Created: ".toList ++ t.text) = insert t live
  destroyed : ∀ live (t : ThreadId),
    read live (.debug, "Thread Destroyed: ".toList ++ t.text) = live.erase t
  released : ∀ live n,
    read live (.debug, "Released ".toList ++ Text.ofNat 10 n ++ " thread records".toList) = ∅
  other : ∀ live line,
    (∀ t : ThreadId, line ≠ (.debug, "Thread Created: ".toList ++ t.text)) →
    (∀ t : ThreadId, line ≠ (.debug, "Thread Destroyed: ".toList ++ t.text)) →
    (∀ n, line ≠ (.debug, "Released ".toList ++ Text.ofNat 10 n ++ " thread records".toList)) →
    read live line = live

theorem readsMembers_readLine : ReadsMembers readLine where
  created live t := readLine_line live (.created t)
  destroyed live t := readLine_line live (.destroyed t)
  released live n := readLine_line live (.released n)
  other live line hcreated hdestroyed hreleased := by
    rw [readLine]
    cases hread : Entry.ofLine? line with
    | none => rfl
    | some e =>
      -- the line is the entry's own, so its words are known
      obtain rfl := (Entry.ofLine?_eq_some_iff line e).mp hread
      rcases e with ⟨kind, t⟩ | t | t | t | t | n | f
      · rfl
      · exact absurd rfl (hcreated t)
      · rfl
      · exact absurd rfl (hdestroyed t)
      · rfl
      · exact absurd rfl (hreleased n)
      · rfl

/-! ### What a step writes -/

/-- What a direct call writes while these threads are registered. -/
def Call.report (live : Finset ThreadId) : Call → List Entry
  | .create t => .created t :: if t ∈ live then [.recordReset t] else []
  | .destroy t => .destroyed t :: if t ∈ live then [] else [.notRegistered t]
  | .release => [.released live.card]
  | .write t _ | .query t => if t ∈ live then [] else [.failed (.unknownThread t)]
  | .contains _ | .size | .isEmpty | .threads | .pendingThreads | .anyPending
  | .anyPendingStatus | .dispatch _ => []

/-- What the step writes while these threads are registered. -/
def Step.account (live : Finset ThreadId) : Step → List Entry
  | .call c => c.notice ++ c.direct.report live
  | .keep _ _ | .access _ _ | .same _ _ | .describe | .poison | .refused _ => []

/-- The table has a reference exactly for these threads. -/
def Registry.Lists (r : Registry) (live : Finset ThreadId) : Prop :=
  ∀ t, t ∈ live ↔ (r.ref? t).isSome = true

namespace Registry

variable {r : Registry} {live : Finset ThreadId}

theorem Lists.toFinset_threadsOf (h : r.Lists live) :
    (threadsOf r.table.value.toList).toFinset = live := by
  ext t
  rw [List.mem_toFinset, mem_threadsOf_iff, h t]
  rfl

theorem Lists.card (h : r.Lists live) : live.card = r.table.value.size := by
  have hnodup : (threadsOf r.table.value.toList).Nodup :=
    (pairwise_threadsOf r.table.value).imp fun hlt heq => by
      subst heq
      exact absurd hlt (UInt64.lt_irrefl _)
  rw [← h.toFinset_threadsOf, List.toFinset_card_of_nodup hnodup, length_threadsOf]

theorem Lists.contains (h : r.Lists live) (t : ThreadId) :
    r.table.value.contains t = decide (t ∈ live) := by
  rw [Bool.eq_iff_iff, decide_eq_true_iff, h t, ref?, Std.ExtTreeMap.isSome_getElem?_eq_contains]

theorem log_withRecord_of_usable {α : Type} (h : r.Lists live) (hp : r.table.poisoned = false)
    (t : ThreadId) (use : RecordRef → α × Registry) :
    (r.withRecord t use).log = if t ∈ live then [] else [.failed (.unknownThread t)] := by
  by_cases hmem : t ∈ live
  · obtain ⟨ref, hl⟩ := (exists_lookup_iff hp t).mpr ((h t).mp hmem)
    simp only [withRecord, hl, if_pos hmem]
  · have href : r.ref? t = none := Option.not_isSome_iff_eq_none.mp (mt (h t).mpr hmem)
    have hl : r.lookup t = .error (.unknownThread t) := by rw [lookup_of_usable hp, href]
    simp only [withRecord, hl, if_neg hmem]

theorem log_run_direct (h : r.Lists live) (hp : r.table.poisoned = false)
    (hc : r.config.logLifecycle = true) {c : Call} (hdirect : ∀ n, c ≠ .dispatch n) :
    (c.run r).log = c.report live := by
  have hlock := lock_of_usable hp
  rcases c with t | t | ⟨t, w⟩ | t | _ | t | _ | _ | _ | _ | _ | _ | n
  · simp [Call.run, create, hlock, Reply.map, Config.lifecycle, hc, h.contains, Call.report]
  · simp [Call.run, destroy, hlock, Reply.map, Config.lifecycle, hc, h.contains, Call.report]
  · exact log_withRecord_of_usable h hp t fun ref => ((), r.accessAt ref (.write w))
  · exact log_withRecord_of_usable h hp t fun ref => (r.infoAt ref, r)
  · simp [Call.run, release, hlock, Reply.map, h.card, Call.report]
  all_goals first | rfl | exact absurd rfl (hdirect n)

/-- **What a call writes is known from the threads that are registered.** -/
theorem log_run (h : r.Lists live) (hp : r.table.poisoned = false)
    (hc : r.config.logLifecycle = true) (c : Call) :
    (c.run r).log = c.notice ++ c.direct.report live := by
  rcases c with t | t | ⟨t, w⟩ | t | _ | t | _ | _ | _ | _ | _ | _ | n
  case dispatch =>
    rw [Call.run_dispatch, log_run_direct h hp hc n.call_ne_dispatch]
    rfl
  all_goals exact log_run_direct h hp hc (by simp)

end Registry

namespace Session

variable {s : Session} {live : Finset ThreadId}

theorem log_step (h : s.registry.Lists live) (hp : s.registry.table.poisoned = false)
    (hc : s.registry.config.logLifecycle = true) (st : Step) :
    (s.step st).log = st.account live := by
  rcases st with c | _ | _ | _ | _ | _ | _
  · exact Registry.log_run h hp hc c
  all_goals exact log_of_not_call (by simp) s

end Session

/-! ### The reader keeps in step -/

theorem Call.foldl_roll_notice (live : Finset ThreadId) (c : Call) :
    c.notice.foldl Entry.roll live = live := by
  cases c <;> rfl

theorem Call.mem_foldl_roll_report (live : Finset ThreadId) (c : Call) (t : ThreadId) :
    t ∈ (c.report live).foldl Entry.roll live ↔
      c = .create t ∨ (t ∈ live ∧ c ≠ .destroy t ∧ c ≠ .release) := by
  rcases c with u | u | ⟨u, w⟩ | u | _ | u | _ | _ | _ | _ | _ | _ | n
  · have hremark : ∀ l, (if u ∈ live then [Entry.recordReset u] else []).foldl Entry.roll l = l := by
      intro l
      split <;> rfl
    simp [report, hremark, Entry.roll, eq_comm]
  · have hremark : ∀ l, (if u ∈ live then [] else [Entry.notRegistered u]).foldl Entry.roll l = l := by
      intro l
      split <;> rfl
    simp [report, hremark, Entry.roll, eq_comm, and_comm]
  · by_cases hu : u ∈ live <;> simp [report, hu, Entry.roll]
  · by_cases hu : u ∈ live <;> simp [report, hu, Entry.roll]
  all_goals simp [report, Entry.roll]

/-- **The reader learns of what the step does.** -/
theorem Step.mem_foldl_roll_account (live : Finset ThreadId) (st : Step) (t : ThreadId) :
    t ∈ (st.account live).foldl Entry.roll live ↔
      st.call? = some (.create t) ∨ (t ∈ live ∧ ¬ st.Drops t) := by
  rcases st with c | _ | _ | _ | _ | _ | _
  · simp [account, Call.foldl_roll_notice, Call.mem_foldl_roll_report, call?, Drops]
  all_goals simp [account, call?, Drops]

namespace Session

variable {s : Session} {live : Finset ThreadId}

/-- The lines of the journal that the steps leave. -/
def linesOf (s : Session) (steps : List Step) : List (Level × Text) :=
  (s.turns steps).flatMap Turn.lines

theorem linesOf_snoc (s : Session) (steps : List Step) (st : Step) :
    s.linesOf (steps ++ [st]) = s.linesOf steps ++ ((s.run steps).step st).lines := by
  simp [linesOf, turns]

theorem membersRead_linesOf_snoc (s : Session) (steps : List Step) (st : Step) :
    membersRead (s.linesOf (steps ++ [st])) =
      ((s.run steps).step st).log.foldl Entry.roll (membersRead (s.linesOf steps)) := by
  rw [membersRead, linesOf_snoc, List.foldl_append, Turn.lines, foldl_readLine]
  rfl

end Session

/-- **The journal and the table keep in step.** -/
theorem lists_membersRead {c : Config} (hc : c.logLifecycle = true) {steps : List Step}
    (hp : .poison ∉ steps) :
    ((Registry.empty c).after steps).Lists
      (membersRead ((Registry.empty c).session.linesOf steps)) := by
  induction steps using List.reverseRecOn with
  | nil =>
    intro t
    simp [Session.linesOf, Session.turns, membersRead, Registry.after, Registry.session,
      Registry.empty, Registry.ref?]
  | append_singleton steps st ih =>
    have hsteps : .poison ∉ steps := fun hmem => hp (List.mem_append_left _ hmem)
    have husable := usable_of_not_mem (c := c) hsteps
    have hwanted : ((Registry.empty c).after steps).config.logLifecycle = true := by
      rw [Registry.after, Session.config_run]
      exact hc
    -- what the step writes is decided by the table before it, which the reader knows
    intro t
    rw [Session.membersRead_linesOf_snoc, Session.log_step (ih hsteps) husable hwanted,
      Step.mem_foldl_roll_account, Registry.after_snoc, isSome_ref?_step_iff husable, ih hsteps]
    rfl

/-! ### Single lines -/

theorem Call.not_mem_notice {e : Entry} (he : e.level ≠ .trace) (c : Call) : e ∉ c.notice := by
  intro hmem
  rcases c with _ | _ | _ | _ | _ | _ | _ | _ | _ | _ | _ | _ | n
  case dispatch =>
    rw [List.mem_singleton.mp hmem] at he
    exact he rfl
  all_goals exact absurd hmem List.not_mem_nil

/-- But for notices, a step writes what its direct call reports. -/
theorem Step.mem_account_iff {e : Entry} (he : e.level ≠ .trace) (live : Finset ThreadId)
    (st : Step) : e ∈ st.account live ↔ ∃ c, st.call? = some c ∧ e ∈ c.report live := by
  rcases st with c | _ | _ | _ | _ | _ | _
  · simp [account, call?, c.not_mem_notice he]
  all_goals simp [account, call?]

namespace Call

variable (live : Finset ThreadId) (c : Call) (t : ThreadId)

theorem recordReset_mem_report_iff :
    .recordReset t ∈ c.report live ↔ c = .create t ∧ t ∈ live := by
  cases c <;> simp [report]
  grind

theorem notRegistered_mem_report_iff :
    .notRegistered t ∈ c.report live ↔ c = .destroy t ∧ t ∉ live := by
  cases c <;> simp [report]
  grind

theorem released_mem_report_iff (n : Nat) :
    .released n ∈ c.report live ↔ c = .release ∧ n = live.card := by
  cases c <;> simp [report]

theorem unknownThread_mem_report_iff :
    .failed (.unknownThread t) ∈ c.report live ↔
      ((∃ w, c = .write t w) ∨ c = .query t) ∧ t ∉ live := by
  cases c <;> simp [report] <;> grind

end Call

/-- The step writes what is to be expected while these threads are registered. -/
structure Session.Accounts (s : Session) (live : Finset ThreadId) (st : Step) : Prop where
  lines : (s.step st).lines = (st.account live).map Entry.line
  reset_iff : ∀ t : ThreadId,
    (.debug, "Thread ".toList ++ t.text ++ " was still registered, record reset".toList) ∈
      (s.step st).lines ↔ st.call? = some (.create t) ∧ t ∈ live
  unregistered_iff : ∀ t : ThreadId,
    (.debug, "Thread ".toList ++ t.text ++ " was not registered".toList) ∈ (s.step st).lines ↔
      st.call? = some (.destroy t) ∧ t ∉ live
  released_iff : ∀ n,
    (.debug, "Released ".toList ++ Text.ofNat 10 n ++ " thread records".toList) ∈
      (s.step st).lines ↔ st.call? = some .release ∧ n = live.card
  warned_iff : ∀ t : ThreadId,
    (.warn, "Unknown thread - ".toList ++ t.text) ∈ (s.step st).lines ↔
      ((∃ w, st.call? = some (.write t w)) ∨ st.call? = some (.query t)) ∧ t ∉ live

theorem Entry.line_mem_map_iff (e : Entry) (log : List Entry) :
    e.line ∈ log.map line ↔ e ∈ log := by
  constructor
  · intro hmem
    obtain ⟨e', hmem', heq⟩ := List.mem_map.mp hmem
    rw [← text_injective (congrArg Prod.snd heq)]
    exact hmem'
  · exact List.mem_map_of_mem

theorem Session.accounts_of_lists {s : Session} {live : Finset ThreadId}
    (h : s.registry.Lists live) (hp : s.registry.table.poisoned = false)
    (hc : s.registry.config.logLifecycle = true) (st : Step) : s.Accounts live st := by
  have hlines : (s.step st).lines = (st.account live).map Entry.line := by
    rw [Turn.lines, log_step h hp hc]
  have hmem : ∀ e : Entry, e.level ≠ .trace →
      (e.line ∈ (s.step st).lines ↔ ∃ c, st.call? = some c ∧ e ∈ c.report live) := by
    intro e he
    rw [hlines, Entry.line_mem_map_iff, Step.mem_account_iff he]
  refine ⟨hlines, ?_, ?_, ?_, ?_⟩
  · intro t
    refine (hmem (.recordReset t) (by simp [Entry.level])).trans ?_
    cases st.call? <;> simp [Call.recordReset_mem_report_iff]
  · intro t
    refine (hmem (.notRegistered t) (by simp [Entry.level])).trans ?_
    cases st.call? <;> simp [Call.notRegistered_mem_report_iff]
  · intro n
    refine (hmem (.released n) (by simp [Entry.level])).trans ?_
    cases st.call? <;> simp [Call.released_mem_report_iff]
  · intro t
    refine (hmem (.failed (.unknownThread t)) (by simp [Entry.level])).trans ?_
    cases st.call? <;> simp [Call.unknownThread_mem_report_iff]

/-! ### Whole runs -/

/-- **The journal is faithful.**  Lines can be told apart; after every step of a run that
    does not poison the table, the threads read from the lines so far are those that are
    listed, in whatever order the table meets them; and each step writes what is due by
    the threads read before it. -/
theorem journal_faithful (c : Config) (hc : c.logLifecycle = true) (steps : List Step)
    (hp : .poison ∉ steps) :
    ReadsMembers readLine ∧ Function.Injective Entry.text ∧
    (∀ n, ∃ ts, ((Registry.empty c).after (steps.take n)).threads = .ok ts ∧
      ts.Pairwise (· < ·) ∧
      ts.toFinset = membersRead ((Registry.empty c).session.linesOf (steps.take n)) ∧
      ∀ found, ((Registry.empty c).after (steps.take n)).Enumerates found →
        threadsOf found = ts) ∧
    (∀ n st, steps[n]? = some st →
      ((Registry.empty c).session.run (steps.take n)).Accounts
        (membersRead ((Registry.empty c).session.linesOf (steps.take n))) st) := by
  have htake : ∀ n, .poison ∉ steps.take n := fun n hmem => hp (List.mem_of_mem_take hmem)
  refine ⟨readsMembers_readLine, Entry.text_injective, ?_, ?_⟩
  · intro n
    have hlists := lists_membersRead hc (htake n)
    exact ⟨_, Registry.threads_of_usable (usable_of_not_mem (htake n)), pairwise_threadsOf _,
      hlists.toFinset_threadsOf, fun _ hfound => threadsOf_eq_of_perm hfound⟩
  · intro n st _
    refine Session.accounts_of_lists (lists_membersRead hc (htake n))
      (usable_of_not_mem (htake n)) ?_ st
    rw [Session.config_run]
    exact hc

/-- One thread is created twice, another one destroyed and raised on without having been
    created, and all records are released. -/
def journaledRun : List Step :=
  [.call (.create ⟨7⟩), .call (.dispatch (.threadCreated ⟨7⟩)), .call (.create ⟨9⟩),
    .call (.destroy ⟨8⟩), .call (.dispatch (.exceptionThrown ⟨8⟩)), .call .release]

/-- The reader has two threads before the release, so two records are released. -/
theorem journal_faithful_release :
    (({} : Config).logLifecycle = true ∧ .poison ∉ journaledRun) ∧
    (∃ ts, ((Registry.empty {}).after (journaledRun.take 5)).threads = .ok ts ∧
      ts.toFinset = {⟨7⟩, ⟨9⟩}) ∧
    (.debug, "Released 2 thread records".toList) ∈
      (((Registry.empty {}).session.run (journaledRun.take 5)).step (.call .release)).lines := by
  have hp : .poison ∉ journaledRun := by decide
  obtain ⟨-, -, hthreads, haccounts⟩ := journal_faithful {} rfl journaledRun hp
  have htwo : membersRead ((Registry.empty {}).session.linesOf (journaledRun.take 5)) =
      {⟨7⟩, ⟨9⟩} := by decide +kernel
  refine ⟨⟨rfl, hp⟩, ?_, ?_⟩
  · obtain ⟨ts, hts, -, hread, -⟩ := hthreads 5
    exact ⟨ts, hts, hread.trans htwo⟩
  · apply ((haccounts 5 (.call .release) rfl).released_iff 2).mpr
    rw [htwo]
    exact ⟨rfl, by decide⟩

end FaultWatch

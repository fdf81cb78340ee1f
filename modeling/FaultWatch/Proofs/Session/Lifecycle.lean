/-
  FaultWatch/Proofs/Session/Lifecycle.lean
  ========================================
  **Which threads are registered after a run.**

  The steps of a run alone decide who is registered (`Live`): a thread is, if it was
  created and nothing that came later destroyed it or released all records.  No
  other step has a part in this, whatever comes in between, and a thread that is
  created again while it is registered is registered once.

  `members_run` compares this with the registry: as long as the table has not been
  poisoned, the table has a reference exactly for the live threads.
  `membership_exact` then gives it for all the ways in which membership can be asked
  for, after every prefix of a run.
-/
import FaultWatch.Proofs.Registry.Members
import FaultWatch.Proofs.Session.Deed

namespace FaultWatch

/-! ### Registered by the steps alone -/

/-- The step ends the registration of the thread, directly or by a notification. -/
def Step.Drops (st : Step) (t : ThreadId) : Prop :=
  st.call? = some (.destroy t) ∨ st.call? = some .release

/-- The steps create the thread, and none of the later ones drops it. -/
def Live (steps : List Step) (t : ThreadId) : Prop :=
  ∃ before st later, steps = before ++ st :: later ∧
    st.call? = some (.create t) ∧ ∀ later' ∈ later, ¬ later'.Drops t

theorem not_live_nil (t : ThreadId) : ¬ Live [] t := by
  rintro ⟨before, st, later, heq, -⟩
  simp at heq

/-- The last step decides: it creates the thread, or leaves it as it was. -/
theorem live_snoc_iff (steps : List Step) (st : Step) (t : ThreadId) :
    Live (steps ++ [st]) t ↔ st.call? = some (.create t) ∨ (Live steps t ∧ ¬ st.Drops t) := by
  constructor
  · rintro ⟨before, st', later, heq, hcreate, hlater⟩
    rcases List.eq_nil_or_concat later with rfl | ⟨later, last, rfl⟩
    · left
      have hlast : st = st' := (List.append_inj' heq rfl).2 |> List.singleton_inj.mp
      rw [hlast]
      exact hcreate
    · right
      rw [List.concat_eq_append] at heq hlater
      rw [← List.cons_append, ← List.append_assoc] at heq
      obtain ⟨hsteps, hlast⟩ := List.append_inj' heq rfl
      obtain rfl := List.singleton_inj.mp hlast
      refine ⟨⟨before, st', later, hsteps, hcreate, ?_⟩, hlater st (by simp)⟩
      intro later' hmem
      exact hlater later' (by simp [hmem])
  · rintro (hcreate | ⟨⟨before, st', later, rfl, hcreate, hlater⟩, hkeeps⟩)
    · exact ⟨steps, st, [], rfl, hcreate, by simp⟩
    · refine ⟨before, st', later ++ [st], by simp, hcreate, ?_⟩
      intro later' hmem
      rcases List.mem_append.mp hmem with hmem | hmem
      · exact hlater later' hmem
      · rw [List.mem_singleton.mp hmem]
        exact hkeeps

/-! ### Registered by the table -/

theorem usable_of_not_mem {c : Config} {steps : List Step} (hp : .poison ∉ steps) :
    ((Registry.empty c).after steps).table.poisoned = false := by
  rw [Registry.after, poisoned_run]
  simpa using hp

theorem Registry.after_snoc (r : Registry) (steps : List Step) (st : Step) :
    r.after (steps ++ [st]) = ((r.session.run steps).step st).after.registry := by
  rw [Registry.after, Session.run_snoc]

/-- On a usable table, a step makes a thread a member by creating it, and keeps a
    member unless it drops it. -/
theorem isSome_ref?_step_iff {s : Session} (hp : s.registry.table.poisoned = false)
    (st : Step) (t : ThreadId) :
    ((s.step st).after.registry.ref? t).isSome = true ↔
      st.call? = some (.create t) ∨ ((s.registry.ref? t).isSome = true ∧ ¬ st.Drops t) := by
  rw [Session.ref?_step hp]
  cases hc : st.call? with
  | none => simp [Step.Drops, hc]
  | some c =>
    cases c with
    | create u =>
      by_cases h : t = u
      · simp [h]
      · simp [h, Ne.symm h, Step.Drops, hc]
    | destroy u =>
      by_cases h : t = u
      · simp [h, Step.Drops, hc]
      · simp [h, Ne.symm h, Step.Drops, hc]
    | release => simp [Step.Drops, hc]
    | write | query | contains | size | isEmpty | threads | pendingThreads | anyPending
    | anyPendingStatus | dispatch => simp [Step.Drops, hc]

/-- **The table has a reference exactly for the live threads.** -/
theorem members_run (c : Config) {steps : List Step} (hp : .poison ∉ steps) (t : ThreadId) :
    (((Registry.empty c).after steps).ref? t).isSome = true ↔ Live steps t := by
  induction steps using List.reverseRecOn with
  | nil => simpa [Registry.after, Registry.session, Registry.empty, Registry.ref?] using not_live_nil t
  | append_singleton steps st ih =>
    have hsteps : .poison ∉ steps := fun hmem => hp (List.mem_append_left _ hmem)
    rw [Registry.after_snoc, isSome_ref?_step_iff (usable_of_not_mem hsteps), live_snoc_iff]
    rw [← ih hsteps]
    rfl

theorem hasMembers_run (c : Config) {steps : List Step} (hp : .poison ∉ steps) :
    ((Registry.empty c).after steps).HasMembers (Live steps) := by
  have hlive : (fun t => (((Registry.empty c).after steps).ref? t).isSome = true) = Live steps :=
    funext fun t => propext (members_run c hp t)
  rw [← hlive]
  exact Registry.hasMembers_of_usable (usable_of_not_mem hp)

/-! ### One step of a run -/

theorem size_create_of_member {r : Registry} {t : ThreadId} (h : (r.ref? t).isSome = true) :
    (r.apply (.create t)).table.value.size = r.table.value.size := by
  have hmem : t ∈ r.table.value := Std.ExtTreeMap.isSome_getElem?_iff_mem.mp h
  simp [Registry.apply, Std.ExtTreeMap.size_insert, hmem]

theorem take_succ_of_getElem? {steps : List Step} {n : Nat} {st : Step}
    (h : steps[n]? = some st) : steps.take (n + 1) = steps.take n ++ [st] := by
  rw [List.take_add_one, h]
  rfl

/-- **Membership is decided by creations, destructions and releases alone.**  After
    every prefix of a run that has not poisoned the table, all questions about
    membership agree on the live threads; a step that makes a thread a member
    creates it; and creating a member again keeps one entry for it. -/
theorem membership_exact (c : Config) (steps : List Step) (hp : .poison ∉ steps) :
    (∀ n, ((Registry.empty c).after (steps.take n)).HasMembers (Live (steps.take n))) ∧
    (∀ n st t, steps[n]? = some st →
      ((Registry.empty c).after (steps.take n)).contains t = .ok false →
      ((Registry.empty c).after (steps.take (n + 1))).contains t = .ok true →
      st.call? = some (.create t)) ∧
    (∀ n st t, steps[n]? = some st → st.call? = some (.create t) →
      ((Registry.empty c).after (steps.take n)).contains t = .ok true →
      ((Registry.empty c).after (steps.take (n + 1))).size =
        ((Registry.empty c).after (steps.take n)).size) := by
  have htake : ∀ n, .poison ∉ steps.take n := fun n hmem => hp (List.mem_of_mem_take hmem)
  refine ⟨fun n => hasMembers_run c (htake n), ?_, ?_⟩
  · intro n st t hst hbefore hafter
    rw [(hasMembers_run c (htake n)).not_contains] at hbefore
    rw [(hasMembers_run c (htake (n + 1))).contains, take_succ_of_getElem? hst,
      live_snoc_iff] at hafter
    rcases hafter with hcreate | ⟨hlive, -⟩
    · exact hcreate
    · exact absurd hlive hbefore
  · intro n st t hst hcreate hbefore
    have husable := usable_of_not_mem (c := c) (htake n)
    rw [Registry.size_of_usable (usable_of_not_mem (htake (n + 1))),
      Registry.size_of_usable husable, take_succ_of_getElem? hst, Registry.after_snoc,
      Session.registry_step]
    have hmember : (((Registry.empty c).after (steps.take n)).ref? t).isSome = true := by
      rw [members_run c (htake n), ← (hasMembers_run c (htake n)).contains]
      exact hbefore
    rw [Session.change_eq_create_iff.mpr ⟨husable, hcreate⟩]
    exact congrArg Except.ok (size_create_of_member hmember)

/-- Two threads, one of them by the null handle; the other one is destroyed, used
    again and then created twice. -/
def reuseRun : List Step :=
  [.call (.create ⟨0⟩), .call (.dispatch (.threadCreated ⟨7⟩)), .keep ['k'] ⟨7⟩,
    .call (.destroy ⟨7⟩), .access ['k'] (.write .raise), .call (.write ⟨7⟩ .raise),
    .call (.dispatch (.threadCreated ⟨7⟩)), .call (.create ⟨7⟩), .call (.destroy ⟨9⟩)]

theorem membership_exact_reuse : .poison ∉ reuseRun ∧
    ((Registry.empty {}).after (reuseRun.take 6)).HasMembers (Live (reuseRun.take 6)) ∧
    (∀ t, ((Registry.empty {}).after (reuseRun.take 6)).contains t = .ok false →
      ((Registry.empty {}).after (reuseRun.take 7)).contains t = .ok true →
      Step.call? (.call (.dispatch (.threadCreated ⟨7⟩))) = some (.create t)) ∧
    ((Registry.empty {}).after (reuseRun.take 8)).size =
      ((Registry.empty {}).after (reuseRun.take 7)).size := by
  obtain ⟨hmembers, hcreated, hrepeated⟩ := membership_exact {} reuseRun (by decide)
  refine ⟨by decide, hmembers 6, ?_, ?_⟩
  · intro t
    exact hcreated 6 _ t rfl
  · exact hrepeated 7 (.call (.create ⟨7⟩)) ⟨7⟩ rfl rfl rfl

end FaultWatch

/-
  FaultWatch/Proofs/Crew/InTurn.lean
  ==================================
  **Working one after another.**

  A crew's workers work one after another (`Registry.work`).  That is one way to mix
  their steps (`inTurn`), and for a team it comes to the same (`Team.turns_inTurn`).
  So if the workers use different threads, the report of the crew is the one of every
  other way to mix their steps (`work_of_interleaves`).
-/
import FaultWatch.Proofs.Crew.Independence

namespace FaultWatch

/-! ### The order -/

/-- All that the first worker has, then all that the next one has, and so on; the
    workers are numbered from `k`. -/
def inTurn {α : Type} (k : Nat) : List (List α) → List (Nat × α)
  | [] => []
  | w :: rest => w.map (fun a => (k, a)) ++ inTurn (k + 1) rest

section

variable {α ι : Type} [DecidableEq ι]

theorem shareOf_append (i : ι) (xs ys : List (ι × α)) :
    shareOf i (xs ++ ys) = shareOf i xs ++ shareOf i ys := by
  simp [shareOf]

theorem shareOf_tagged_self (i : ι) (w : List α) : shareOf i (w.map fun a => (i, a)) = w := by
  induction w with
  | nil => rfl
  | cons a w ih => rw [List.map_cons, shareOf_cons_self, ih]

theorem shareOf_tagged_of_ne {i j : ι} (h : j ≠ i) (w : List α) :
    shareOf i (w.map fun a => (j, a)) = [] := by
  induction w with
  | nil => rfl
  | cons a w ih => rw [List.map_cons, shareOf_cons_of_ne h, ih]

theorem shareOf_inTurn_of_lt {i k : Nat} (h : i < k) (ws : List (List α)) :
    shareOf i (inTurn k ws) = [] := by
  induction ws generalizing k with
  | nil => rfl
  | cons w rest ih =>
    have hne : k ≠ i := by omega
    rw [inTurn, shareOf_append, shareOf_tagged_of_ne hne, ih (by omega), List.nil_append]

theorem shareOf_inTurn (k n : Nat) (ws : List (List α)) :
    shareOf (k + n) (inTurn k ws) = ws.getD n [] := by
  induction ws generalizing k n with
  | nil => rfl
  | cons w rest ih =>
    rw [inTurn, shareOf_append]
    cases n with
    | zero =>
      rw [Nat.add_zero, shareOf_tagged_self, shareOf_inTurn_of_lt (Nat.lt_succ_self k),
        List.append_nil]
      rfl
    | succ n =>
      have hne : k ≠ k + (n + 1) := by omega
      have hnext : k + (n + 1) = k + 1 + n := by omega
      rw [shareOf_tagged_of_ne hne, List.nil_append, hnext, ih]
      rfl

end

/-! ### The team's work in this order -/

namespace Team

section

variable {ι : Type} [DecidableEq ι]

theorem turns_append (s : Team ι) (xs ys : List (ι × Step)) :
    s.turns (xs ++ ys) = s.turns xs ++ (s.run xs).turns ys := by
  induction xs generalizing s with
  | nil => rfl
  | cons entry rest ih => simp only [List.cons_append, turns, run, ih]

theorem run_append (s : Team ι) (xs ys : List (ι × Step)) :
    s.run (xs ++ ys) = (s.run xs).run ys := by
  induction xs generalizing s with
  | nil => rfl
  | cons entry rest ih => simp only [List.cons_append, run, ih]

/-- One worker alone works as in its own session. -/
theorem turns_tagged (s : Team ι) (i : ι) (w : List Step) :
    s.turns (w.map fun st => (i, st)) = ((s.session i).turns w).map fun turn => (i, turn) := by
  induction w generalizing s with
  | nil => rfl
  | cons st w ih => rw [List.map_cons, turns, ih, session_step_self, Session.turns, List.map_cons]

theorem session_run_tagged (s : Team ι) (i : ι) (w : List Step) :
    (s.run (w.map fun st => (i, st))).session i = (s.session i).run w := by
  induction w generalizing s with
  | nil => rfl
  | cons st w ih => rw [List.map_cons, run, ih, session_step_self, Session.run_cons]

theorem slots_run_tagged_of_ne {i j : ι} (h : i ≠ j) (s : Team ι) (w : List Step) :
    (s.run (w.map fun st => (j, st))).slots i = s.slots i := by
  induction w generalizing s with
  | nil => rfl
  | cons st w ih => rw [List.map_cons, run, ih, slots_step_of_ne h]

end

theorem turns_inTurn {s : Team Nat} {k : Nat} (hslots : ∀ j, k ≤ j → s.slots j = [])
    (ws : List (List Step)) :
    s.turns (inTurn k ws) = inTurn k (s.registry.workersTurns ws) ∧
      (s.run (inTurn k ws)).registry = s.registry.afterAll ws := by
  induction ws generalizing s k with
  | nil => exact ⟨rfl, rfl⟩
  | cons w rest ih =>
    have hsession : s.session k = s.registry.session := by
      rw [session, hslots k (Nat.le_refl k)]
      rfl
    have hregistry : (s.run (w.map fun st => (k, st))).registry = s.registry.after w := by
      have hrun := congrArg Session.registry (session_run_tagged s k w)
      rw [hsession] at hrun
      exact hrun
    have hrest : ∀ j, k + 1 ≤ j → (s.run (w.map fun st => (k, st))).slots j = [] := by
      intro j hj
      have hne : j ≠ k := by omega
      rw [slots_run_tagged_of_ne hne]
      exact hslots j (by omega)
    obtain ⟨hturns, hafter⟩ := ih hrest
    rw [hregistry] at hturns hafter
    constructor
    · rw [inTurn, turns_append, turns_tagged, hsession, hturns]
      rfl
    · rw [inTurn, run_append]
      exact hafter

end Team

/-! ### Crews -/

theorem interleaves_inTurn (ws : List (List Step)) :
    Interleaves (fun i => ws.getD i []) (inTurn 0 ws) := by
  intro i
  have h := shareOf_inTurn 0 i ws
  rwa [Nat.zero_add] at h

/-- **The report of a crew does not depend on how its workers take turns**, if no two
    of them use the same thread. -/
theorem work_of_interleaves (c : Config) (crew : Crew) (own : Nat → ThreadId → Prop)
    (hdisjoint : ∀ i j t, own i t → own j t → i = j)
    (hwork : ∀ i, ∀ st ∈ crew.workers.getD i [], st.Within (own i))
    (trace : List (Nat × Step)) (htrace : Interleaves (fun i => crew.workers.getD i []) trace) :
    let report := (Registry.empty c).work crew
    let team := Team.start ((Registry.empty c).after crew.setup)
    (∀ i, (shareOf i (team.turns trace)).map Turn.told =
      (report.workers.getD i []).map Turn.told) ∧
    (team.run trace).registry.session.turns crew.after = report.after ∧
    (team.run trace).registry.after crew.after = report.final := by
  intro report team
  have hr : ((Registry.empty c).after crew.setup).Sound :=
    (Session.sound_run c crew.setup).registry
  have hslots : ∀ j, 0 ≤ j → team.slots j = [] := fun _ _ => rfl
  obtain ⟨hturns, hafter⟩ := Team.turns_inTurn hslots crew.workers
  have hregistry : (team.run trace).registry =
      ((Registry.empty c).after crew.setup).afterAll crew.workers :=
    (registry_run_eq hr hdisjoint hwork htrace (interleaves_inTurn crew.workers)).trans hafter
  refine ⟨?_, ?_, ?_⟩
  · intro i
    have htrace' := (agreesOn_alone hr hdisjoint hwork htrace i).1
    have hinTurn := (agreesOn_alone hr hdisjoint hwork (interleaves_inTurn crew.workers) i).1
    have hshare := shareOf_inTurn 0 i (team.registry.workersTurns crew.workers)
    rw [Nat.zero_add, ← hturns] at hshare
    rw [htrace', ← hinTurn]
    exact congrArg (List.map Turn.told) hshare
  · rw [hregistry]
    rfl
  · rw [hregistry]
    rfl

end FaultWatch

/-
  FaultWatch/Proofs/Session/Alike.lean
  ====================================
  **Registries that no call can tell apart.**

  What a call tells its caller and the journal depends on the configuration, the
  table, and what is known at the records in the table; records that are not in the
  table have no part in it, and neither have the locks of records.  So a call is told
  the same on two registries that are alike in this (`Registry.Alike`).
-/
import FaultWatch.Proofs.Registry.Enumeration
import FaultWatch.Proofs.Session.Told

namespace FaultWatch.Registry

/-- The registries have the same configuration and table, and the same is known of
    every registered thread. -/
structure Alike (q r : Registry) : Prop where
  config : q.config = r.config
  table : q.table = r.table
  known : ∀ {t : ThreadId} {ref : RecordRef}, r.ref? t = some ref → q.infoAt ref = r.infoAt ref

variable {q r : Registry}

theorem Alike.lookup (h : Alike q r) (t : ThreadId) : q.lookup t = r.lookup t :=
  lookup_congr h.table t

theorem Alike.sameFlags (h : Alike q r) : SameFlags q r :=
  ⟨h.table, fun href => congrArg Info.pending (h.known href)⟩

/-! ### What calls are told -/

theorem Alike.told_direct (h : Alike q r) {c : Call} (hc : ∀ n, c ≠ .dispatch n) :
    (c.run q).told = (c.run r).told := by
  have hfleet := h.sameFlags.sameFleet
  cases c with
  | dispatch n => exact absurd rfl (hc n)
  | create t =>
    apply told_map
    simp only [create, h.table, h.config]
    cases r.table.lock <;> simp only [Reply.told]
  | destroy t =>
    apply told_map
    simp only [destroy, h.table, h.config]
    cases r.table.lock <;> simp only [Reply.told]
  | release =>
    apply told_map
    simp only [release, h.table]
    cases r.table.lock <;> simp only [Reply.told]
  | write t w =>
    apply told_map
    simp only [write, withRecord, h.lookup]
    cases r.lookup t <;> simp only [Reply.told]
  | query t =>
    apply told_map
    simp only [query, withRecord, h.lookup]
    cases hl : r.lookup t with
    | error f => simp only [Reply.told]
    | ok ref => simp only [Reply.told, h.known (lookup_eq_ok_iff.mp hl).2]
  | contains t => simp only [Call.run, Reply.look, Reply.told, Registry.contains, h.table]
  | size => simp only [Call.run, Reply.look, Reply.told, Registry.size, h.table]
  | isEmpty => simp only [Call.run, Reply.look, Reply.told, Registry.isEmpty, h.table]
  | threads => simp only [Call.run, Reply.look, Reply.told, hfleet.threads]
  | pendingThreads => simp only [Call.run, Reply.look, Reply.told, hfleet.pendingThreads]
  | anyPending => simp only [Call.run, Reply.look, Reply.told, hfleet.anyPending]
  | anyPendingStatus => simp only [Call.run, Reply.look, Reply.told, hfleet.anyPendingStatus]

/-- **A call is told the same on registries that are alike.** -/
theorem Alike.told_run (h : Alike q r) (c : Call) : (c.run q).told = (c.run r).told := by
  cases c with
  | dispatch n => exact told_dispatch (h.told_direct n.call_ne_dispatch)
  | _ => exact h.told_direct (by simp)

end FaultWatch.Registry

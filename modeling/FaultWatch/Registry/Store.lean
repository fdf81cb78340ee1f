/-
  FaultWatch/Registry/Store.lean
  ==============================
  **Where records live.**

  A record is shared: the registry reaches it through its table, and anyone who
  has been handed it goes on reaching it, also after the table has dropped it.
  So records live in a store of their own, and table and holders alike have
  *references* to them.

  A reference names the thread the record was made for and how many records that
  thread had before. Two things follow. The store never gives one reference
  twice, so a record that was dropped cannot come back under a new one. And what
  happens to one thread has no part in the references of another.
-/
import FaultWatch.Record.Basic
import FaultWatch.Handle.Order
import Std.Data.ExtTreeMap.Lemmas

namespace FaultWatch

structure RecordRef where
  /-- The thread that the record was made for. -/
  thread : ThreadId
  /-- How many records the thread had before this one. -/
  serial : Nat
deriving DecidableEq, Repr

/-- All records ever made, for each thread in the order of their making. -/
structure Store where
  rows : Std.ExtTreeMap ThreadId (Array Record)

namespace Store

def empty : Store := ⟨∅⟩

def row (s : Store) (t : ThreadId) : Array Record := s.rows.getD t #[]

/-- The reference that the next record of the thread will have. -/
def next (s : Store) (t : ThreadId) : RecordRef := ⟨t, (s.row t).size⟩

/-- Make a new record for the thread, under the reference `next`. -/
def insert (s : Store) (t : ThreadId) : Store := ⟨s.rows.insert t ((s.row t).push Record.fresh)⟩

/-- The record behind a reference. A reference that has not been given yet stands
    for a fresh record, which is what it will be given for. -/
def get (s : Store) (ref : RecordRef) : Record := (s.row ref.thread).getD ref.serial Record.fresh

def modify (s : Store) (ref : RecordRef) (f : Record → Record) : Store :=
  ⟨s.rows.modify ref.thread fun row => row.modify ref.serial f⟩

/-- Has the reference been given? -/
def Holds (s : Store) (ref : RecordRef) : Prop := ref.serial < (s.row ref.thread).size

instance (s : Store) (ref : RecordRef) : Decidable (s.Holds ref) :=
  inferInstanceAs (Decidable (_ < _))

/-! ### Rows -/

@[simp] theorem row_empty (t : ThreadId) : empty.row t = #[] := by simp [empty, row]

theorem row_insert (s : Store) (t u : ThreadId) :
    (s.insert t).row u = if u = t then (s.row u).push Record.fresh else s.row u := by
  by_cases h : u = t
  · subst h; simp [insert, row]
  · simp [insert, row, Std.ExtTreeMap.getD_insert, h, Ne.symm h]

theorem row_modify (s : Store) (ref : RecordRef) (f : Record → Record) (u : ThreadId) :
    (s.modify ref f).row u =
      if u = ref.thread then (s.row u).modify ref.serial f else s.row u := by
  by_cases h : u = ref.thread
  · subst h
    cases h : s.rows[ref.thread]? <;> simp [modify, row, Std.ExtTreeMap.getD_eq_getD_getElem?, h]
  · simp [modify, row, Std.ExtTreeMap.getD_modify, h, Ne.symm h]

/-! ### References -/

/-- The reference given next tells which were given before. -/
theorem holds_congr {s s' : Store} {ref : RecordRef}
    (h : s.next ref.thread = s'.next ref.thread) : s.Holds ref ↔ s'.Holds ref := by
  have hsize : (s.row ref.thread).size = (s'.row ref.thread).size :=
    congrArg RecordRef.serial h
  rw [Holds, Holds, hsize]

theorem not_holds_next (s : Store) (t : ThreadId) : ¬ s.Holds (s.next t) := by
  simp [Holds, next]

theorem holds_insert_iff (s : Store) (t : ThreadId) (ref : RecordRef) :
    (s.insert t).Holds ref ↔ s.Holds ref ∨ ref = s.next t := by
  obtain ⟨u, n⟩ := ref
  by_cases h : u = t
  · subst h; simp [Holds, next, row_insert]; omega
  · simp [Holds, next, row_insert, h]

@[simp] theorem holds_modify_iff (s : Store) (ref ref' : RecordRef) (f : Record → Record) :
    (s.modify ref f).Holds ref' ↔ s.Holds ref' := by
  by_cases h : ref'.thread = ref.thread <;> simp [Holds, row_modify, h]

/-! ### Records -/

@[simp] theorem get_insert (s : Store) (t : ThreadId) (ref : RecordRef) :
    (s.insert t).get ref = s.get ref := by
  by_cases h : ref.thread = t
  · simp only [get, row_insert, h, if_true, Array.getD_eq_getD_getElem?, Array.getElem?_push]
    by_cases hn : ref.serial = (s.row t).size <;> simp [hn]
  · simp [get, row_insert, h]

@[simp] theorem get_next (s : Store) (t : ThreadId) : s.get (s.next t) = Record.fresh := by
  simp [get, next]

theorem get_modify_self {s : Store} {ref : RecordRef} (h : s.Holds ref) (f : Record → Record) :
    (s.modify ref f).get ref = f (s.get ref) := by
  have h' : ref.serial < (s.row ref.thread).size := h
  simp [get, row_modify, Array.getD_eq_getD_getElem?, h', Array.getElem_modify]

theorem get_modify_of_ne {s : Store} {ref ref' : RecordRef} (h : ref' ≠ ref)
    (f : Record → Record) : (s.modify ref f).get ref' = s.get ref' := by
  by_cases ht : ref'.thread = ref.thread
  · have hn : ref.serial ≠ ref'.serial := fun e => h (by cases ref; cases ref'; simp_all)
    simp [get, row_modify, ht, Array.getD_eq_getD_getElem?, Array.getElem?_modify, hn]
  · simp [get, row_modify, ht]

theorem get_modify_of_not_holds {s : Store} {ref : RecordRef} (h : ¬ s.Holds ref)
    (f : Record → Record) (ref' : RecordRef) : (s.modify ref f).get ref' = s.get ref' := by
  by_cases heq : ref' = ref
  · subst heq
    have h' : (s.row ref'.thread).size ≤ ref'.serial := Nat.not_lt.mp h
    simp [get, row_modify, Array.getD_eq_getD_getElem?, h']
  · exact get_modify_of_ne heq f

end Store

end FaultWatch

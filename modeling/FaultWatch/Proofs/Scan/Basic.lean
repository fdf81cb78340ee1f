/-
  FaultWatch/Proofs/Scan/Basic.lean
  =================================
  **Reading the records one at a time.**

  A question about all threads holds the lock of the table until it is answered, so
  which threads it is about is fixed when it starts.  The records have locks of their
  own, which the scan takes one after another.  Before, between and after its reads,
  those who have been handed a record go on using it, be it one that the scan has read
  or one that it has yet to come to.

  So what happens is a list of `Tick`s, each either the next read of the scan or a use
  by someone else, and any list of them is possible.  `Scan.tick` says what one tick
  does, and the lemmas about it come first.  The lemmas about a whole run follow from
  them by induction on the ticks.  A scan that has ended does nothing more
  (`Scan.Finished`), and it was under way at the instants before (`Scan.instants`).
-/
import FaultWatch.Proofs.Registry.Enumeration

namespace FaultWatch

/-! ### Scans and ticks -/

/-- What a scan is after. -/
inductive Aim where
  /-- Is any flag set?  The first that is found ends the scan. -/
  | any
  /-- Which threads have their flag set? -/
  | all
deriving DecidableEq, Repr

inductive Tick where
  /-- The scan reads the next record, if it is not at its end. -/
  | read
  /-- Someone uses a record, registered or not. -/
  | use (ref : RecordRef) (a : Access)
deriving DecidableEq, Repr

def Tick.use? : Tick → Option (RecordRef × Access)
  | .read => none
  | .use ref a => some (ref, a)

/-- One read of a scan: the entry it came to, and the registry at that instant. -/
structure Reading where
  entry : ThreadId × RecordRef
  registry : Registry

namespace Reading

def thread (x : Reading) : ThreadId := x.entry.1

def flag (x : Reading) : Bool := x.registry.store.pendingAt x.entry.2

end Reading

structure Scan where
  registry : Registry
  /-- The entries it has yet to come to. -/
  unread : List (ThreadId × RecordRef)
  /-- The threads whose flag it found set. -/
  met : List ThreadId

namespace Scan

def start (r : Registry) (found : List (ThreadId × RecordRef)) : Scan := ⟨r, found, []⟩

/-- The entry that the scan reads next, or none if it is at its end. -/
def next? (aim : Aim) (s : Scan) : Option (ThreadId × RecordRef) :=
  match aim with
  | .any => if s.met.isEmpty then s.unread.head? else none
  | .all => s.unread.head?

def Finished (aim : Aim) (s : Scan) : Prop := s.next? aim = none

instance (aim : Aim) (s : Scan) : Decidable (s.Finished aim) :=
  inferInstanceAs (Decidable (_ = none))

/-- The read that the tick brings. -/
def reading? (aim : Aim) (s : Scan) : Tick → Option Reading
  | .read => (s.next? aim).map fun entry => ⟨entry, s.registry⟩
  | .use _ _ => none

def note (s : Scan) (x : Reading) : Scan :=
  { s with unread := s.unread.tail, met := if x.flag then s.met ++ [x.thread] else s.met }

def tick (aim : Aim) (s : Scan) : Tick → Scan
  | .read =>
    match s.next? aim with
    | some entry => s.note ⟨entry, s.registry⟩
    | none => s
  | .use ref a => { s with registry := s.registry.accessAt ref a }

def run (aim : Aim) (s : Scan) (ticks : List Tick) : Scan := ticks.foldl (tick aim) s

def readings (aim : Aim) (s : Scan) : List Tick → List Reading
  | [] => []
  | k :: ticks => (s.reading? aim k).toList ++ readings aim (s.tick aim k) ticks

/-- The registry at each instant of the scan, until it is at its end. -/
def instants (aim : Aim) (s : Scan) : List Tick → List Registry
  | [] => [s.registry]
  | k :: ticks =>
    s.registry :: if (s.next? aim).isSome then instants aim (s.tick aim k) ticks else []

/-- The answer of a scan that looks for a flag. -/
def anyPending (s : Scan) : Bool := !s.met.isEmpty

/-- The answer of a scan that looks for all threads with their flag set. -/
def pendingThreads (s : Scan) : List ThreadId := Handle.sort s.met

/-! ### One tick -/

section

variable {aim : Aim} {s : Scan} {k : Tick}

theorem unread_of_next? {entry : ThreadId × RecordRef} (h : s.next? aim = some entry) :
    s.unread = entry :: s.unread.tail := by
  have hhead : s.unread.head? = some entry := by
    cases aim with
    | any =>
      rw [next?] at h
      split at h
      · exact h
      · simp at h
    | all => exact h
  obtain ⟨rest, hrest⟩ := List.head?_eq_some_iff.mp hhead
  rw [hrest, List.tail_cons]

theorem tick_read_of_some {entry : ThreadId × RecordRef} (h : s.next? aim = some entry) :
    s.tick aim .read = s.note ⟨entry, s.registry⟩ := by
  simp only [tick, h]

theorem tick_read_of_finished (h : s.Finished aim) : s.tick aim .read = s := by
  rw [Finished] at h
  simp only [tick, h]

theorem unread_tick (aim : Aim) (s : Scan) (k : Tick) :
    s.unread = (s.reading? aim k).toList.map Reading.entry ++ (s.tick aim k).unread := by
  cases k with
  | use ref a => rfl
  | read =>
    cases h : s.next? aim with
    | none => simp [reading?, h, tick_read_of_finished h]
    | some entry => simpa [reading?, h, tick_read_of_some h, note] using unread_of_next? h

theorem met_tick (aim : Aim) (s : Scan) (k : Tick) :
    (s.tick aim k).met =
      s.met ++ ((s.reading? aim k).toList.filter Reading.flag).map Reading.thread := by
  cases k with
  | use ref a => simp [reading?, tick]
  | read =>
    cases h : s.next? aim with
    | none => simp [reading?, h, tick_read_of_finished h]
    | some entry =>
      rw [tick_read_of_some h, reading?, h, note]
      cases hflag : Reading.flag ⟨entry, s.registry⟩ <;> simp [hflag]

/-- **A read changes no record.** -/
theorem registry_tick (aim : Aim) (s : Scan) (k : Tick) :
    (s.tick aim k).registry =
      k.use?.toList.foldl (fun q u => q.accessAt u.1 u.2) s.registry := by
  cases k with
  | use ref a => rfl
  | read =>
    cases h : s.next? aim with
    | none =>
      rw [tick_read_of_finished h]
      rfl
    | some entry =>
      rw [tick_read_of_some h]
      rfl

theorem table_tick (aim : Aim) (s : Scan) (k : Tick) :
    (s.tick aim k).registry.table = s.registry.table := by
  rw [registry_tick]
  cases k <;> rfl

theorem reading?_of_finished (h : s.Finished aim) (k : Tick) : s.reading? aim k = none := by
  rw [Finished] at h
  cases k <;> simp [reading?, h]

theorem Finished.tick (h : s.Finished aim) (k : Tick) : (s.tick aim k).Finished aim := by
  cases k with
  | read => rwa [tick_read_of_finished h]
  | use ref a => exact h

theorem registry_of_reading? {x : Reading} (h : s.reading? aim k = some x) :
    x.registry = s.registry := by
  cases k with
  | use ref a => simp [reading?] at h
  | read =>
    obtain ⟨entry, -, rfl⟩ := Option.map_eq_some_iff.mp h
    rfl

/-- A scan is at its end when it has read everything, or found what it looks for. -/
theorem unread_of_finished (h : s.Finished aim) (haim : aim = .all ∨ s.met = []) :
    s.unread = [] := by
  rw [← List.head?_eq_none_iff]
  cases aim with
  | all => exact h
  | any =>
    have hmet : s.met = [] := by simpa using haim
    simpa [Finished, next?, hmet] using h

theorem finished_of_unread (h : s.unread = []) : s.Finished aim := by
  cases aim <;> simp [Finished, next?, h]

end

/-! ### A run of ticks -/

section

variable {aim : Aim} {s : Scan} {ticks : List Tick}

theorem run_cons (aim : Aim) (s : Scan) (k : Tick) (ticks : List Tick) :
    s.run aim (k :: ticks) = (s.tick aim k).run aim ticks := rfl

/-- **The scan goes by the order of its entries** and reads none twice. -/
theorem unread_run (aim : Aim) (s : Scan) (ticks : List Tick) :
    s.unread = (s.readings aim ticks).map Reading.entry ++ (s.run aim ticks).unread := by
  induction ticks generalizing s with
  | nil => rfl
  | cons k ticks ih =>
    rw [readings, run_cons, List.map_append, List.append_assoc, ← ih]
    exact unread_tick aim s k

/-- **Met are the threads whose flag was set at the instant they were read.** -/
theorem met_run (aim : Aim) (s : Scan) (ticks : List Tick) :
    (s.run aim ticks).met =
      s.met ++ ((s.readings aim ticks).filter Reading.flag).map Reading.thread := by
  induction ticks generalizing s with
  | nil => simp [run, readings]
  | cons k ticks ih =>
    rw [readings, run_cons, ih, met_tick, List.filter_append, List.map_append,
      List.append_assoc]

/-- **What happened to the records is what was done by others.** -/
theorem registry_run (aim : Aim) (s : Scan) (ticks : List Tick) :
    (s.run aim ticks).registry =
      (ticks.filterMap Tick.use?).foldl (fun q u => q.accessAt u.1 u.2) s.registry := by
  induction ticks generalizing s with
  | nil => rfl
  | cons k ticks ih =>
    rw [run_cons, ih, registry_tick]
    cases k <;> rfl

theorem Finished.run (h : s.Finished aim) (ticks : List Tick) :
    (s.run aim ticks).Finished aim := by
  induction ticks generalizing s with
  | nil => exact h
  | cons k ticks ih => exact ih (h.tick k)

theorem readings_of_finished (h : s.Finished aim) (ticks : List Tick) :
    s.readings aim ticks = [] := by
  induction ticks generalizing s with
  | nil => rfl
  | cons k ticks ih =>
    rw [readings, reading?_of_finished h, ih (h.tick k)]
    rfl

/-- **A scan comes to its end** with at most one read for each entry, whatever is done
    in between. -/
theorem finished_run (h : s.unread.length ≤ ticks.count .read) :
    (s.run aim ticks).Finished aim := by
  induction ticks generalizing s with
  | nil =>
    have hunread : s.unread = [] := by simpa using h
    exact finished_of_unread hunread
  | cons k ticks ih =>
    cases k with
    | use ref a =>
      rw [List.count_cons_of_ne (by simp)] at h
      exact ih h
    | read =>
      rw [List.count_cons_self] at h
      cases hnext : s.next? aim with
      | none => exact Finished.run hnext _
      | some entry =>
        rw [run_cons, tick_read_of_some hnext]
        apply ih
        rw [unread_of_next? hnext] at h
        simpa [note] using h

/-! ### The instants of a run -/

theorem instants_cons_of_not_finished (h : ¬ s.Finished aim) (k : Tick) (ticks : List Tick) :
    s.instants aim (k :: ticks) = s.registry :: (s.tick aim k).instants aim ticks := by
  rw [instants, if_pos (Option.isSome_iff_ne_none.mpr h)]

/-- **A scan reads while it is under way.** -/
theorem registry_mem_instants {x : Reading} (hx : x ∈ s.readings aim ticks) :
    x.registry ∈ s.instants aim ticks := by
  induction ticks generalizing s with
  | nil => simp [readings] at hx
  | cons k ticks ih =>
    by_cases h : s.Finished aim
    · rw [readings_of_finished h] at hx
      simp at hx
    · rw [instants_cons_of_not_finished h, List.mem_cons]
      rw [readings, List.mem_append, Option.mem_toList] at hx
      rcases hx with hnow | hlater
      · exact Or.inl (registry_of_reading? hnow)
      · exact Or.inr (ih hlater)

/-- What no tick changes is the same at every instant. -/
theorem eq_of_mem_instants {α : Type} {f : Registry → α}
    (hstep : ∀ s : Scan, ∀ k ∈ ticks, f (s.tick aim k).registry = f s.registry) {q : Registry}
    (hq : q ∈ s.instants aim ticks) : f q = f s.registry := by
  induction ticks generalizing s with
  | nil =>
    obtain rfl : q = s.registry := by simpa [instants] using hq
    rfl
  | cons k ticks ih =>
    rw [instants, List.mem_cons] at hq
    rcases hq with rfl | hlater
    · rfl
    · split at hlater
      · have hrest := ih (fun s' k' hk' => hstep s' k' (List.mem_cons_of_mem _ hk')) hlater
        exact hrest.trans (hstep s k List.mem_cons_self)
      · simp at hlater

theorem table_of_mem_instants {q : Registry} (hq : q ∈ s.instants aim ticks) :
    q.table = s.registry.table :=
  eq_of_mem_instants (fun s k _ => table_tick aim s k) hq

end

end Scan

/-! ### Uses that write nothing -/

/-- **If nobody writes, every flag stays as it is.** -/
theorem Scan.pendingAt_of_mem_instants {aim : Aim} {s : Scan} {ticks : List Tick}
    (hquiet : ∀ ref w, .use ref (.write w) ∉ ticks) {q : Registry}
    (hq : q ∈ s.instants aim ticks) (ref : RecordRef) :
    q.store.pendingAt ref = s.registry.store.pendingAt ref := by
  apply eq_of_mem_instants (f := fun q => q.store.pendingAt ref) ?_ hq
  intro s' k hk
  rw [registry_tick]
  cases k with
  | read => rfl
  | use ref' a =>
    have hlook : ∀ w, a ≠ .write w := by
      rintro w rfl
      exact hquiet ref' w hk
    exact Registry.pendingAt_accessAt (Access.pending_effect (hlook _) (hlook _) _) ref

end FaultWatch

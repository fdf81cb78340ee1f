/-
  FaultWatch/Proofs/Registry/Change.lean
  ======================================
  **What a call can do to a registry.**

  There are many calls, but only five things that can happen to a registry: a
  thread gets a new record, a thread loses its record, all threads lose theirs, a
  record is used, or the table's lock is poisoned.  Each is a `Change`, and
  `Call.registry_run` says which change a call makes, be it made directly or by
  dispatching a notification.  What is proved of the changes is thereby proved of
  every call, and no later proof opens a call again.

  The section on soundness states the one fact that ties the table to the store:
  the table only has references that the store has given, each for the thread it
  stands under (`Registry.Sound`).
-/
import FaultWatch.Session.Call

namespace FaultWatch

/-! ### Changes -/

/-- One thing that can happen to a registry. -/
inductive Change where
  | idle
  | create (thread : ThreadId)
  | destroy (thread : ThreadId)
  | release
  | access (ref : RecordRef) (a : Access)
  | poison
deriving DecidableEq, Repr

/-- The record that is written to, and the write. -/
def Change.write? : Change → Option (RecordRef × Write)
  | .access ref (.write w) => some (ref, w)
  | _ => none

/-- What is done with the record. -/
def Change.use? (ref : RecordRef) : Change → Option Access
  | .access ref' a => if ref' = ref then some a else none
  | _ => none

/-- The call itself, or the direct call for the notification it dispatches. -/
def Call.direct : Call → Call
  | .dispatch n => n.call
  | c => c

namespace Registry

/-- The reference that the table has for a thread, whether its lock is poisoned
    or not. -/
def ref? (r : Registry) (t : ThreadId) : Option RecordRef := r.table.value[t]?

def apply (r : Registry) : Change → Registry
  | .idle => r
  | .create t =>
    { r with
      store := r.store.insert t
      table := r.table.map fun table => table.insert t (r.store.next t) }
  | .destroy t => { r with table := r.table.map fun table => table.erase t }
  | .release => { r with table := r.table.map fun _ => ∅ }
  | .access ref a => r.accessAt ref a
  | .poison => r.poison

/-! ### Looking up -/

theorem lookup_of_usable {r : Registry} (hp : r.table.poisoned = false) (t : ThreadId) :
    r.lookup t = match r.ref? t with
      | some ref => .ok ref
      | none => .error (.unknownThread t) := by
  simp only [lookup, Guarded.lock, hp, ref?]
  rfl

theorem lookup_of_poisoned {r : Registry} (hp : r.table.poisoned = true) (t : ThreadId) :
    r.lookup t = .error .lockPoisoned := by
  simp [lookup, Guarded.lock, hp]

theorem lookup_congr {q r : Registry} (htable : q.table = r.table) (t : ThreadId) :
    q.lookup t = r.lookup t := by
  simp only [lookup, htable]

theorem lookup_eq_ok_iff {r : Registry} {t : ThreadId} {ref : RecordRef} :
    r.lookup t = .ok ref ↔ r.table.poisoned = false ∧ r.ref? t = some ref := by
  cases hp : r.table.poisoned with
  | true => simp [lookup_of_poisoned hp]
  | false =>
    rw [lookup_of_usable hp]
    cases r.ref? t <;> simp

end Registry

/-! ### The change that a call makes -/

/-- The change that a call makes to a registry.  On a poisoned table it makes
    none. -/
def Call.change (r : Registry) (c : Call) : Change :=
  match c.direct with
  | .create t => if r.table.poisoned then .idle else .create t
  | .destroy t => if r.table.poisoned then .idle else .destroy t
  | .release => if r.table.poisoned then .idle else .release
  | .write t w =>
    match r.lookup t with
    | .ok ref => .access ref (.write w)
    | .error _ => .idle
  | _ => .idle

namespace Registry

theorem registry_create (r : Registry) (t : ThreadId) :
    (r.create t).registry = r.apply ((Call.create t).change r) := by
  cases hp : r.table.poisoned <;>
    simp [create, Call.change, Call.direct, Guarded.lock, hp, apply]

theorem registry_destroy (r : Registry) (t : ThreadId) :
    (r.destroy t).registry = r.apply ((Call.destroy t).change r) := by
  cases hp : r.table.poisoned <;>
    simp [destroy, Call.change, Call.direct, Guarded.lock, hp, apply]

theorem registry_release (r : Registry) :
    r.release.registry = r.apply (Call.release.change r) := by
  cases hp : r.table.poisoned <;>
    simp [release, Call.change, Call.direct, Guarded.lock, hp, apply]

theorem registry_write (r : Registry) (t : ThreadId) (w : Write) :
    (r.write t w).registry = r.apply ((Call.write t w).change r) := by
  cases hl : r.lookup t <;> simp [write, withRecord, Call.change, Call.direct, hl, apply]

theorem registry_query (r : Registry) (t : ThreadId) : (r.query t).registry = r := by
  cases hl : r.lookup t <;> simp [query, withRecord, hl]

theorem registry_dispatch (r : Registry) (n : Notification) :
    (r.dispatch n).registry = r.apply (n.call.change r) := by
  cases n with
  | threadCreated t => exact r.registry_create t
  | threadDestroyed t => exact r.registry_destroy t
  | exceptionCleared t => exact r.registry_write t .clear
  | exceptionThrown t => exact r.registry_write t .raise
  | exceptionCatcherFound t f => exact r.registry_write t (.setCatcher f)
  | exceptionQuery t => exact r.registry_query t

end Registry

theorem Call.change_dispatch (r : Registry) (n : Notification) :
    (Call.dispatch n).change r = n.call.change r := by
  cases n <;> rfl

/-- **A call does to the registry what its change says**, whether it is made
    directly or dispatched. -/
theorem Call.registry_run (r : Registry) (c : Call) :
    (c.run r).registry = r.apply (c.change r) := by
  cases c with
  | create t => exact r.registry_create t
  | destroy t => exact r.registry_destroy t
  | write t w => exact r.registry_write t w
  | query t => exact r.registry_query t
  | release => exact r.registry_release
  | dispatch n =>
    rw [Call.change_dispatch]
    exact r.registry_dispatch n
  | contains t => rfl
  | size => rfl
  | isEmpty => rfl
  | threads => rfl
  | pendingThreads => rfl
  | anyPending => rfl
  | anyPendingStatus => rfl

namespace Registry

/-! ### A change seen through the table -/

@[simp] theorem ref?_idle (r : Registry) (t : ThreadId) : (r.apply .idle).ref? t = r.ref? t := rfl

theorem ref?_create (r : Registry) (t u : ThreadId) :
    (r.apply (.create t)).ref? u = if u = t then some (r.store.next t) else r.ref? u := by
  by_cases h : u = t
  · subst h
    simp [ref?, apply]
  · simp [ref?, apply, Std.ExtTreeMap.getElem?_insert, h, Ne.symm h]

theorem ref?_destroy (r : Registry) (t u : ThreadId) :
    (r.apply (.destroy t)).ref? u = if u = t then none else r.ref? u := by
  by_cases h : u = t
  · subst h
    simp [ref?, apply]
  · simp [ref?, apply, Std.ExtTreeMap.getElem?_erase, h, Ne.symm h]

@[simp] theorem ref?_release (r : Registry) (t : ThreadId) : (r.apply .release).ref? t = none := by
  simp [ref?, apply]

@[simp] theorem ref?_access (r : Registry) (ref : RecordRef) (a : Access) (t : ThreadId) :
    (r.apply (.access ref a)).ref? t = r.ref? t := rfl

@[simp] theorem ref?_poison (r : Registry) (t : ThreadId) :
    (r.apply .poison).ref? t = r.ref? t := rfl

theorem poisoned_apply (r : Registry) (ch : Change) :
    (r.apply ch).table.poisoned = (r.table.poisoned || decide (ch = .poison)) := by
  cases ch <;> simp [apply, accessAt, poison]

@[simp] theorem config_apply (r : Registry) (ch : Change) : (r.apply ch).config = r.config := by
  cases ch <;> rfl

/-! ### A change seen through the store -/

theorem holds_apply_iff (r : Registry) (ch : Change) (ref : RecordRef) :
    (r.apply ch).store.Holds ref ↔
      r.store.Holds ref ∨ ∃ t, ch = .create t ∧ ref = r.store.next t := by
  cases ch with
  | create t => simpa [apply] using Store.holds_insert_iff r.store t ref
  | access ref' a => simp [apply, accessAt]
  | idle => simp [apply]
  | destroy t => simp [apply]
  | release => simp [apply]
  | poison => simp [apply, poison]

theorem get_apply_access {r : Registry} {ref : RecordRef} (h : r.store.Holds ref) (a : Access) :
    (r.apply (.access ref a)).store.get ref = a.effect (r.store.get ref) :=
  Store.get_modify_self h _

theorem get_apply_of_ne (r : Registry) {ch : Change} {ref : RecordRef}
    (h : ∀ a, ch ≠ .access ref a) : (r.apply ch).store.get ref = r.store.get ref := by
  cases ch with
  | access ref' a =>
    have hne : ref ≠ ref' := by
      rintro rfl
      exact h a rfl
    exact Store.get_modify_of_ne hne _
  | create t => simp [apply]
  | idle => rfl
  | destroy t => rfl
  | release => rfl
  | poison => rfl

/-- **A record changes only by what is done with it.** -/
theorem get_apply {r : Registry} {ch : Change}
    (h : ∀ ref a, ch = .access ref a → r.store.Holds ref) (ref : RecordRef) :
    (r.apply ch).store.get ref =
      match ch.use? ref with
      | some a => a.effect (r.store.get ref)
      | none => r.store.get ref := by
  by_cases hown : ∃ a, ch = .access ref a
  · obtain ⟨a, rfl⟩ := hown
    simp [Change.use?, get_apply_access (h ref a rfl)]
  · have hne : ∀ a, ch ≠ .access ref a := fun a heq => hown ⟨a, heq⟩
    rw [get_apply_of_ne r hne]
    cases ch with
    | access ref' a =>
      have href : ref' ≠ ref := by
        rintro rfl
        exact hne a rfl
      simp [Change.use?, href]
    | idle | create | destroy | release | poison => rfl

theorem serial_next_apply (r : Registry) (ch : Change) (t : ThreadId) :
    ((r.apply ch).store.next t).serial =
      if ch = .create t then (r.store.next t).serial + 1 else (r.store.next t).serial := by
  cases ch with
  | create u =>
    by_cases h : t = u
    · subst h
      simp [apply, Store.next, Store.row_insert]
    · simp [apply, Store.next, Store.row_insert, h, Ne.symm h]
  | access ref a =>
    by_cases h : t = ref.thread
    · simp [apply, accessAt, Store.next, Store.row_modify, h]
    · simp [apply, accessAt, Store.next, Store.row_modify, h]
  | idle | destroy | release | poison => simp [apply, poison]

theorem next_apply_access (r : Registry) (ref : RecordRef) (a : Access) (t : ThreadId) :
    (r.apply (.access ref a)).store.next t = r.store.next t := by
  have hserial := serial_next_apply r (.access ref a) t
  rw [if_neg (by simp)] at hserial
  exact congrArg (RecordRef.mk t) hserial

/-! ### The same change made to two registries -/

section
variable {q r : Registry}

theorem table_apply_congr (htable : q.table = r.table)
    (hnext : ∀ t, q.store.next t = r.store.next t) (ch : Change) :
    (q.apply ch).table = (r.apply ch).table := by
  cases ch <;> simp only [apply, accessAt, poison, htable, hnext]

theorem next_apply_congr (hnext : ∀ t, q.store.next t = r.store.next t) (ch : Change)
    (t : ThreadId) : (q.apply ch).store.next t = (r.apply ch).store.next t := by
  have hserial : ((q.apply ch).store.next t).serial = ((r.apply ch).store.next t).serial := by
    rw [serial_next_apply, serial_next_apply, hnext]
  exact congrArg (RecordRef.mk t) hserial

end

/-! ### A change seen through what is known of a thread -/

/-- **Only a write changes what is known**, and only at its own record. -/
theorem infoAt_apply {r : Registry} {ch : Change}
    (h : ∀ ref a, ch = .access ref a → r.store.Holds ref) (ref : RecordRef) :
    (r.apply ch).infoAt ref =
      match ch.write? with
      | some (ref', w) => if ref' = ref then Write.apply (r.infoAt ref) w else r.infoAt ref
      | none => r.infoAt ref := by
  rw [infoAt, get_apply h]
  cases ch with
  | access ref' a =>
    by_cases href : ref' = ref
    · cases a <;> simp [Change.use?, Change.write?, href, Access.effect, Record.write, infoAt]
    · cases a <;> simp [Change.use?, Change.write?, href, infoAt]
  | idle | create | destroy | release | poison => rfl

/-! ### Soundness -/

/-- The table has only references that the store has given, each for the thread
    it stands under. -/
structure Sound (r : Registry) : Prop where
  thread_eq : ∀ {t : ThreadId} {ref : RecordRef}, r.ref? t = some ref → ref.thread = t
  holds : ∀ {t : ThreadId} {ref : RecordRef}, r.ref? t = some ref → r.store.Holds ref

theorem sound_empty (c : Config) : (empty c).Sound := by
  constructor <;> intro t ref h <;> simp [ref?, empty] at h

/-- What the table has after a change it had before, or was just given. -/
theorem ref?_of_apply {r : Registry} {ch : Change} {t : ThreadId} {ref : RecordRef}
    (href : (r.apply ch).ref? t = some ref) :
    r.ref? t = some ref ∨ (ch = .create t ∧ ref = r.store.next t) := by
  cases ch with
  | create u =>
    rw [ref?_create] at href
    by_cases htu : t = u
    · subst htu
      exact Or.inr ⟨rfl, by simpa using href.symm⟩
    · exact Or.inl (by simpa [htu] using href)
  | destroy u =>
    rw [ref?_destroy] at href
    by_cases htu : t = u
    · simp [htu] at href
    · exact Or.inl (by simpa [htu] using href)
  | release => simp at href
  | idle => exact Or.inl href
  | access ref' a => exact Or.inl href
  | poison => exact Or.inl href

/-- **Every change keeps a registry sound.** -/
theorem Sound.apply {r : Registry} (h : r.Sound) (ch : Change) : (r.apply ch).Sound := by
  constructor
  · intro t ref href
    rcases ref?_of_apply href with hold | ⟨-, rfl⟩
    · exact h.thread_eq hold
    · rfl
  · intro t ref href
    rw [holds_apply_iff]
    rcases ref?_of_apply href with hold | ⟨hch, hnext⟩
    · exact Or.inl (h.holds hold)
    · exact Or.inr ⟨t, hch, hnext⟩

/-! ### Registered records -/

/-- The record belongs to a registered thread. -/
def Registers (r : Registry) (ref : RecordRef) : Prop := r.ref? ref.thread = some ref

instance (r : Registry) (ref : RecordRef) : Decidable (r.Registers ref) :=
  inferInstanceAs (Decidable (_ = _))

theorem Sound.registers {r : Registry} (h : r.Sound) {t : ThreadId} {ref : RecordRef}
    (href : r.ref? t = some ref) : r.Registers ref := by
  rw [Registers, h.thread_eq href]
  exact href

/-- A call uses no other records than those of registered threads. -/
theorem Sound.registers_of_change {r : Registry} (h : r.Sound) {c : Call} {ref : RecordRef}
    {a : Access} (hch : c.change r = .access ref a) : r.Registers ref := by
  unfold Call.change at hch
  split at hch
  · split at hch <;> simp at hch
  · split at hch <;> simp at hch
  · split at hch <;> simp at hch
  · -- a write: its record is the one the table has for the thread
    split at hch
    · rename_i ref' hl
      obtain ⟨rfl, -⟩ : ref' = ref ∧ _ := by simpa using hch
      exact h.registers (lookup_eq_ok_iff.mp hl).2
    · simp at hch
  · simp at hch

/-- **A record that was dropped is never registered again.** -/
theorem not_registers_apply {r : Registry} {ref : RecordRef} (hholds : r.store.Holds ref)
    (h : ¬ r.Registers ref) (ch : Change) : ¬ (r.apply ch).Registers ref := by
  intro hafter
  rcases ref?_of_apply hafter with hbefore | ⟨-, hnext⟩
  · exact h hbefore
  · rw [hnext] at hholds
    exact Store.not_holds_next _ _ hholds

end Registry

end FaultWatch

/-
  FaultWatch/Proofs/EventMask/Readings.lean
  =========================================
  **Words read truncated and words read retained.**

  Whoever builds a mask in steps can drop the bits that belong to no flag as soon as a
  word comes in, or carry them along.  It comes to the same for the flags.  A change works
  on each bit by itself (`EventMask.getLsbD_apply`), and where a flag is it does not ask
  how the word was read.  So taking the known part of a mask (`EventMask.known`) goes
  through every change (`EventMask.known_apply`), a run on truncated words is at any time
  the known part of the run on retained words (`InStep`), and a change that forgets the
  residue makes the two equal.

  Advertising is a union with the required events.  It adds their bits and nothing else
  (`EventMask.Advertised`), whatever else the mask holds, so it can be done to the word
  as well as to the mask.
-/
import FaultWatch.EventMask.Edit
import FaultWatch.Proofs.EventMask.Known

namespace FaultWatch.EventMask

/-! ### The known part -/

/-- The mask without its residue. -/
def known (m : EventMask) : EventMask := ⟨m.bits &&& knownBits⟩

theorem ofWord_truncated (w : BitVec 32) :
    ofWord .truncated w = (ofWord .retained w).known := rfl

theorem has_known (m : EventMask) (f : EventFlag) : m.known.has f = m.has f := by
  rw [has, known, BitVec.getLsbD_and, getLsbD_knownBits, Bool.and_true]
  rfl

theorem residue_known (m : EventMask) : m.known.residue = 0 := by
  simp [residue, known, BitVec.and_assoc]

theorem isAll_known (m : EventMask) : m.known.isAll = m.isAll := by
  have hbits : knownBits &&& (m.bits &&& knownBits) = knownBits &&& m.bits := by
    rw [BitVec.and_comm m.bits, ← BitVec.and_assoc, BitVec.and_self]
  rw [isAll, isAll, known, hbits]

/-! ### Changes, bit by bit -/

/-- A bit of a word as it is read: truncated, it is clear where no flag is. -/
def bitOf (reading : WordReading) (w : BitVec 32) (i : Nat) : Bool :=
  match reading with
  | .truncated => w.getLsbD i && knownBits.getLsbD i
  | .retained => w.getLsbD i

theorem getLsbD_ofWord (reading : WordReading) (w : BitVec 32) (i : Nat) :
    (ofWord reading w).bits.getLsbD i = bitOf reading w i := by
  cases reading with
  | truncated => exact BitVec.getLsbD_and
  | retained => rfl

/-- What a change makes of the bit at the position. -/
def Edit.bit (reading : WordReading) (i : Nat) (before : Bool) : Edit → Bool
  | .advertise => before || required.bits.getLsbD i
  | .reset => false
  | .fill => knownBits.getLsbD i
  | .complement => !before && knownBits.getLsbD i
  | .insert w => before || bitOf reading w i
  | .remove w => before && !bitOf reading w i
  | .toggle w => before ^^ bitOf reading w i
  | .retainOnly w => before && bitOf reading w i
  | .set w on => if bitOf reading w i then on else before

/-- **A change works on each bit by itself.** -/
theorem getLsbD_apply (reading : WordReading) (m : EventMask) (e : Edit) (i : Nat) :
    (e.apply reading m).bits.getLsbD i = e.bit reading i (m.bits.getLsbD i) := by
  cases e with
  | advertise => exact BitVec.getLsbD_or
  | reset => exact BitVec.getLsbD_zero
  | fill => rfl
  | complement =>
    show (~~~m.bits &&& knownBits).getLsbD i = _
    rw [BitVec.and_comm, getLsbD_and_not, Bool.and_comm]
    rfl
  | insert w =>
    rw [Edit.bit, ← getLsbD_ofWord]
    exact BitVec.getLsbD_or
  | remove w =>
    rw [Edit.bit, ← getLsbD_ofWord]
    exact getLsbD_and_not _ _ i
  | toggle w =>
    rw [Edit.bit, ← getLsbD_ofWord]
    exact BitVec.getLsbD_xor
  | retainOnly w =>
    rw [Edit.bit, ← getLsbD_ofWord]
    exact BitVec.getLsbD_and
  | set w on =>
    rw [Edit.bit, ← getLsbD_ofWord]
    cases on with
    | true =>
      refine BitVec.getLsbD_or.trans ?_
      cases (ofWord reading w).bits.getLsbD i <;> simp
    | false =>
      refine (getLsbD_and_not _ _ i).trans ?_
      cases (ofWord reading w).bits.getLsbD i <;> simp

theorem getLsbD_required_iff (i : Nat) :
    required.bits.getLsbD i = true ↔
      i = EventFlag.threads.position ∨ i = EventFlag.exceptions.position := by
  show (EventFlag.threads.bits ||| EventFlag.exceptions.bits).getLsbD i = true ↔ _
  rw [BitVec.getLsbD_or, Bool.or_eq_true, EventFlag.getLsbD_bits_iff,
    EventFlag.getLsbD_bits_iff, eq_comm, @eq_comm Nat EventFlag.exceptions.position]

theorem getLsbD_knownBits_of_required {i : Nat} (h : required.bits.getLsbD i = true) :
    knownBits.getLsbD i = true := by
  rcases (getLsbD_required_iff i).mp h with rfl | rfl
  · exact getLsbD_knownBits .threads
  · exact getLsbD_knownBits .exceptions

/-! ### Changes and the known part -/

/-- Where a flag is both readings do the same, and nothing comes up where no flag is. -/
theorem Edit.bit_truncated (e : Edit) (i : Nat) (before : Bool) :
    e.bit .truncated i (before && knownBits.getLsbD i) =
      (e.bit .retained i before && knownBits.getLsbD i) := by
  cases hknown : knownBits.getLsbD i with
  | true =>
    have hread : ∀ w, bitOf .truncated w i = bitOf .retained w i := by simp [bitOf, hknown]
    cases e <;> simp [Edit.bit, hread, hknown]
  | false =>
    have hrequired : required.bits.getLsbD i = false := by
      rw [← Bool.not_eq_true]
      intro hset
      simp [getLsbD_knownBits_of_required hset] at hknown
    cases e <;> simp [Edit.bit, bitOf, hknown, hrequired]

/-- **A change goes from known parts to known parts.** -/
theorem known_apply (m : EventMask) (e : Edit) :
    e.apply .truncated m.known = (e.apply .retained m).known := by
  apply eq_of_getLsbD
  intro i _
  simp only [getLsbD_apply, known, BitVec.getLsbD_and, Edit.bit_truncated]

/-- The change does not ask what residue the mask had. -/
def Edit.Forgets : Edit → Prop
  | .complement | .reset | .fill => True
  | .advertise | .insert _ | .remove _ | .toggle _ | .retainOnly _ | .set _ _ => False

theorem known_apply_of_forgets (m : EventMask) {e : Edit} (he : e.Forgets) :
    (e.apply .retained m).known = e.apply .retained m := by
  apply eq_of_getLsbD
  intro i _
  simp only [known, BitVec.getLsbD_and, getLsbD_apply]
  cases e with
  | complement | reset | fill => simp [Edit.bit]
  | advertise | insert | remove | toggle | retainOnly | set => exact he.elim

/-! ### Two runs -/

/-- The first mask is the known part of the second one, and the flags do not tell them
    apart. -/
structure InStep (t r : EventMask) : Prop where
  eq_known : t = r.known
  residue : t.residue = 0
  contains : ∀ f : EventFlag, t.contains f.mask = r.contains f.mask
  flags : t.flags = r.flags
  isAll : t.isAll = r.isAll

theorem inStep_known (m : EventMask) : InStep m.known m where
  eq_known := rfl
  residue := m.residue_known
  contains f := by rw [Bool.eq_iff_iff, contains_mask_iff, contains_mask_iff, has_known]
  flags := List.filter_congr fun f _ => m.has_known f
  isAll := m.isAll_known

/-- **The run on truncated words is the known part of the run on retained words**, change
    by change. -/
theorem history_known (m : EventMask) (edits : List Edit) :
    history .truncated m.known edits = (history .retained m edits).map known := by
  induction edits generalizing m with
  | nil => rfl
  | cons e rest ih =>
    simp only [history, List.map_cons, known_apply]
    rw [ih]

/-- Every change has a mask after it, made from the mask before it. -/
theorem exists_getElem?_history (reading : WordReading) (m : EventMask) {edits : List Edit}
    {n : Nat} {e : Edit} (he : edits[n]? = some e) :
    ∃ before, (history reading m edits)[n]? = some (e.apply reading before) := by
  induction edits generalizing m n with
  | nil => simp at he
  | cons e' rest ih =>
    cases n with
    | zero =>
      obtain rfl : e' = e := by simpa using he
      exact ⟨m, rfl⟩
    | succ n => exact ih (e'.apply reading m) (by simpa using he)

/-! ### Advertising -/

/-- The second mask is the first one with the required events, and it needs none of them
    again. -/
structure Advertised (m m' : EventMask) : Prop where
  keeps : m'.contains m = true
  /-- What is added is exactly what was missing of the two required flags. -/
  adds : ∀ i, (m'.bits.getLsbD i = true ∧ m.bits.getLsbD i = false) ↔
    m.bits.getLsbD i = false ∧
      (i = EventFlag.threads.position ∨ i = EventFlag.exceptions.position)
  settled : m'.advertise = m'

theorem advertised_advertise (m : EventMask) : Advertised m m.advertise where
  keeps := by
    rw [contains, decide_eq_true_iff, advertise, union, BitVec.and_comm]
    apply BitVec.eq_of_getLsbD_eq
    intro i _
    rw [BitVec.getLsbD_and, BitVec.getLsbD_or]
    cases m.bits.getLsbD i <;> simp
  adds i := by
    rw [advertise, union, BitVec.getLsbD_or, Bool.or_eq_true, getLsbD_required_iff]
    constructor
    · rintro ⟨hset | hadded, hmissing⟩
      · simp [hset] at hmissing
      · exact ⟨hmissing, hadded⟩
    · rintro ⟨hmissing, hadded⟩
      exact ⟨Or.inr hadded, hmissing⟩
  settled := by
    rw [advertise, advertise, union, union, BitVec.or_assoc, BitVec.or_self]

/-- **Truncated and retained words stay in step.**  A change works on each bit by itself.
    From one word, by the same changes, every mask made of truncated words is the known
    part of the mask made of retained words; both are equal whenever the residue is
    forgotten.  To any mask, advertising adds the missing required events, and it may be
    done to the word before it is read. -/
theorem readings_in_step (w : BitVec 32) (edits : List Edit) :
    (∀ (reading : WordReading) (m : EventMask) (e : Edit) (i : Nat),
      (e.apply reading m).bits.getLsbD i = e.bit reading i (m.bits.getLsbD i)) ∧
    InStep (ofWord .truncated w) (ofWord .retained w) ∧
    (∀ (n : Nat) (e : Edit), edits[n]? = some e → ∃ t r,
      (history .truncated (ofWord .truncated w) edits)[n]? = some t ∧
      (history .retained (ofWord .retained w) edits)[n]? = some r ∧
      InStep t r ∧ (e.Forgets → t = r)) ∧
    (∀ m : EventMask, Advertised m m.advertise) ∧
    ∀ x, advertiseWord x = (ofWord .retained x).advertise.bits ∧
      ofWord .truncated (advertiseWord x) = (ofWord .truncated x).advertise := by
  refine ⟨getLsbD_apply, inStep_known _, ?_, advertised_advertise, ?_⟩
  · intro n e he
    obtain ⟨before, hr⟩ := exists_getElem?_history .retained (ofWord .retained w) he
    refine ⟨(e.apply .retained before).known, e.apply .retained before, ?_, hr,
      inStep_known _, known_apply_of_forgets before⟩
    rw [ofWord_truncated, history_known, List.getElem?_map, hr]
    rfl
  · intro x
    refine ⟨rfl, ?_⟩
    -- advertising is one of the changes
    exact (known_apply (ofWord .retained x) .advertise).symm

/-- Two unknown bits are dropped as they come in, or carried along up to the complement. -/
example :
    history .truncated (ofWord .truncated 0x80000001)
        [.insert 0x40000040, .remove 0x80000001, .complement] =
      [⟨0x41⟩, ⟨0x40⟩, ⟨0x1033fbf⟩] ∧
    history .retained (ofWord .retained 0x80000001)
        [.insert 0x40000040, .remove 0x80000001, .complement] =
      [⟨0xc0000041⟩, ⟨0x40000040⟩, ⟨0x1033fbf⟩] := by
  decide

end FaultWatch.EventMask

/-
  FaultWatch/Proofs/EventMask/Written.lean
  ========================================
  **What a mask is written as.**

  The text of a mask consists of parts: the names of its flags, in the order in which the
  flags are declared, and behind them its residue as one hexadecimal word, if there is
  any.  `EventMask.WrittenAs` says so by the bits of the mask alone.  The parts have no
  bit in common and together all bits of the mask, and no part has a character that could
  be taken for what stands between parts.  Each part, read alone, is itself again
  (`Part.read_text`): a name is not taken for a word, as no name begins with a digit, and
  no two flags share a name.
-/
import FaultWatch.EventMask.Text
import FaultWatch.Proofs.EventMask.Known
import FaultWatch.Proofs.Text.Numeral

namespace FaultWatch

open Text

/-! ### Characters of parts -/

/-- The character is no blank and no bar, so it cannot be taken for what stands between
    two parts. -/
def Text.isInner (c : Char) : Bool := !isBlank c && c ≠ '|'

theorem EventFlag.isInner_of_mem_name {f : EventFlag} {c : Char} (hc : c ∈ f.name) :
    isInner c = true := by
  have all : f.name.all isInner = true := by cases f <;> decide
  exact List.all_eq_true.mp all c hc

/-- No name begins with a digit. -/
theorem EventFlag.exists_name_eq_cons (f : EventFlag) : ∃ rest, f.name = 'M' :: rest := by
  cases f <;> exact ⟨_, rfl⟩

namespace EventMask

def wordDigits (w : BitVec 32) : Text := ofNat 16 w.toNat

theorem hexWord_eq (w : BitVec 32) : hexWord w = '0' :: 'x' :: wordDigits w := rfl

theorem isInner_of_mem_hexWord {w : BitVec 32} {c : Char} (hc : c ∈ hexWord w) :
    isInner c = true := by
  have digits : hexDigits.all isInner = true := by decide
  rw [hexWord_eq, List.mem_cons, List.mem_cons] at hc
  rcases hc with rfl | rfl | hc
  · decide
  · decide
  · exact List.all_eq_true.mp digits c (mem_hexDigits_of_mem_ofNat hc)

theorem Part.isInner_of_mem_text {p : Part} {c : Char} (hc : c ∈ p.text) :
    isInner c = true := by
  cases p with
  | flag f => exact EventFlag.isInner_of_mem_name hc
  | word w => exact isInner_of_mem_hexWord hc

theorem Part.text_ne_nil (p : Part) : p.text ≠ [] := by
  cases p with
  | flag f =>
    obtain ⟨rest, hname⟩ := f.exists_name_eq_cons
    simp [Part.text, hname]
  | word w => simp [Part.text, hexWord_eq]

/-! ### Parts read back -/

theorem readWord?_wordDigits (w : BitVec 32) : readWord? (wordDigits w) = some w := by
  have hread : readHex? (wordDigits w) = some w.toNat := readHex?_ofNat _
  -- the digits are not taken for a plus sign
  have hplain : ∀ rest, wordDigits w ≠ '+' :: rest := by
    intro rest hdigits
    have hplus : '+' ∈ hexDigits := mem_hexDigits_of_mem_ofNat (n := w.toNat) (by
      rw [← wordDigits, hdigits]
      exact List.mem_cons_self)
    exact absurd hplus (by decide)
  have hlt : w.toNat < 4294967296 := w.isLt
  unfold readWord?
  split
  · rename_i rest hdigits
    exact absurd hdigits (hplain rest)
  · simp only [hread, Nat.one_shiftLeft, BitVec.ofNat_toNat, BitVec.setWidth_eq]
    exact if_pos hlt

/-- **A part that is written and read is itself again.** -/
theorem Part.read_text (p : Part) : Part.read p.text = .ok p := by
  cases p with
  | flag f =>
    have hfind := f.ofName?_name
    obtain ⟨rest, hname⟩ := f.exists_name_eq_cons
    rw [hname] at hfind
    rw [Part.text, hname]
    simp [Part.read, hfind]
  | word w => simp only [Part.text, hexWord_eq, Part.read, readWord?_wordDigits]

/-! ### The parts of a mask -/

theorem getLsbD_ofParts_iff (ps : List Part) (i : Nat) :
    (ofParts ps).bits.getLsbD i = true ↔ ∃ p ∈ ps, p.bits.getLsbD i = true := by
  show (ps.foldl (fun acc (p : Part) => acc ||| p.bits) 0).getLsbD i = true ↔ _
  rw [getLsbD_foldl_or]
  simp

/-- **The order of the parts does not matter, nor how often each comes.** -/
theorem ofParts_eq_of_mem_iff {ps qs : List Part} (h : ∀ p, p ∈ ps ↔ p ∈ qs) :
    ofParts ps = ofParts qs := by
  apply eq_of_getLsbD
  intro i _
  rw [Bool.eq_iff_iff, getLsbD_ofParts_iff, getLsbD_ofParts_iff]
  simp only [h]

def residueWords (m : EventMask) : List (BitVec 32) :=
  if m.residue = 0 then [] else [m.residue]

theorem parts_eq (m : EventMask) :
    m.parts = m.flags.map .flag ++ m.residueWords.map .word := by
  rw [parts, residueWords]
  split <;> rfl

theorem mem_residueWords_iff (m : EventMask) (w : BitVec 32) :
    w ∈ m.residueWords ↔ m.residue ≠ 0 ∧ w = m.residue := by
  by_cases h : m.residue = 0 <;> simp [residueWords, h]

/-- A mask has a residue if it has a bit that no flag has. -/
theorem residue_ne_zero_iff (m : EventMask) :
    m.residue ≠ 0 ↔ ∃ i, m.bits.getLsbD i = true ∧ ∀ f : EventFlag, f.position ≠ i := by
  simp only [← getLsbD_residue_iff]
  constructor
  · intro hne
    apply Classical.byContradiction
    intro hnone
    rw [not_exists] at hnone
    apply hne
    apply BitVec.eq_of_getLsbD_eq
    intro i _
    rw [Bool.eq_false_iff.mpr (hnone i)]
    exact BitVec.getLsbD_zero.symm
  · rintro ⟨i, hi⟩ hzero
    rw [hzero] at hi
    simp at hi

theorem mem_parts_flag_iff (m : EventMask) (f : EventFlag) :
    Part.flag f ∈ m.parts ↔ m.has f = true := by
  simp [parts_eq, mem_flags_iff]

theorem mem_parts_word_iff (m : EventMask) (w : BitVec 32) :
    Part.word w ∈ m.parts ↔ m.residue ≠ 0 ∧ w = m.residue := by
  simp [parts_eq, mem_residueWords_iff]

/-- **The parts of a mask make the mask.** -/
theorem ofParts_parts (m : EventMask) : ofParts m.parts = m := by
  apply eq_of_getLsbD
  intro i _
  rw [Bool.eq_iff_iff, getLsbD_ofParts_iff]
  constructor
  · rintro ⟨p, hp, hbit⟩
    cases p with
    | flag f =>
      obtain rfl := (f.getLsbD_bits_iff i).mp hbit
      exact (m.mem_parts_flag_iff f).mp hp
    | word w =>
      obtain ⟨-, rfl⟩ := (m.mem_parts_word_iff w).mp hp
      exact ((m.getLsbD_residue_iff i).mp hbit).1
  · intro hbit
    by_cases hknown : ∃ f : EventFlag, f.position = i
    · obtain ⟨f, rfl⟩ := hknown
      exact ⟨.flag f, (m.mem_parts_flag_iff f).mpr hbit, (f.getLsbD_bits_iff _).mpr rfl⟩
    · rw [not_exists] at hknown
      have hresidue : m.residue ≠ 0 := m.residue_ne_zero_iff.mpr ⟨i, hbit, hknown⟩
      exact ⟨.word m.residue, (m.mem_parts_word_iff _).mpr ⟨hresidue, rfl⟩,
        (m.getLsbD_residue_iff i).mpr ⟨hbit, hknown⟩⟩

/-! ### The parts have no bit in common -/

theorem and_eq_zero_of_getLsbD {a b : BitVec 32}
    (h : ∀ i, a.getLsbD i = true → ¬ b.getLsbD i = true) : a &&& b = 0 := by
  apply BitVec.eq_of_getLsbD_eq
  intro i _
  rw [BitVec.getLsbD_and]
  cases ha : a.getLsbD i with
  | false => simp
  | true => simp [Bool.eq_false_iff.mpr (h i ha)]

theorem and_bits_of_ne {f g : EventFlag} (h : f ≠ g) : f.bits &&& g.bits = 0 := by
  apply and_eq_zero_of_getLsbD
  intro i hf hg
  rw [EventFlag.getLsbD_bits_iff] at hf hg
  exact h (EventFlag.position_injective (hf.trans hg.symm))

theorem bits_and_residue (m : EventMask) (f : EventFlag) : f.bits &&& m.residue = 0 := by
  apply and_eq_zero_of_getLsbD
  intro i hf hresidue
  exact ((m.getLsbD_residue_iff i).mp hresidue).2 f ((f.getLsbD_bits_iff i).mp hf)

theorem nodup_flags (m : EventMask) : m.flags.Nodup :=
  List.Pairwise.filter _ (by decide : EventFlag.all.Nodup)

theorem pairwise_parts (m : EventMask) : m.parts.Pairwise fun p q => p.bits &&& q.bits = 0 := by
  rw [parts_eq, List.pairwise_append]
  refine ⟨?_, ?_, ?_⟩
  · rw [List.pairwise_map]
    exact m.nodup_flags.imp and_bits_of_ne
  · rw [residueWords]
    split <;> simp
  · intro p hp q hq
    obtain ⟨f, -, rfl⟩ := List.mem_map.mp hp
    obtain ⟨w, hw, rfl⟩ := List.mem_map.mp hq
    obtain ⟨-, rfl⟩ := (m.mem_residueWords_iff w).mp hw
    exact m.bits_and_residue f

/-! ### The written form -/

/-- The mask is written as the names of these flags and, behind them, these words. -/
structure WrittenAs (m : EventMask) (fs : List EventFlag) (ws : List (BitVec 32)) : Prop where
  text : m.text = " | ".toList.intercalate (fs.map EventFlag.name ++ ws.map hexWord)
  /-- Named are the flags that the mask contains, each once and as they are declared. -/
  flags : ∀ f, f ∈ fs ↔ m.contains f.mask = true
  nodup : fs.Nodup
  declared : fs.Sublist EventFlag.all
  /-- There is a word if some bit of the mask belongs to no flag, and it has all these
      bits. -/
  words_ne_nil : ws ≠ [] ↔ ∃ i, m.bits.getLsbD i = true ∧ ∀ f : EventFlag, f.position ≠ i
  words : ∀ w ∈ ws, ws = [w] ∧
    ∀ i, w.getLsbD i = true ↔ m.bits.getLsbD i = true ∧ ∀ f : EventFlag, f.position ≠ i
  /-- A word is written with lowercase digits that stand for it, and no zero before
      them. -/
  digits : ∀ w ∈ ws, ∃ digits, hexWord w = '0' :: 'x' :: digits ∧
    (∀ c ∈ digits, c ∈ hexDigits) ∧ digits.head? ≠ some '0' ∧ readHex? digits = some w.toNat
  disjoint : (fs.map EventFlag.bits ++ ws).Pairwise fun a b => a &&& b = 0
  union : (fs.map EventFlag.bits ++ ws).foldl (· ||| ·) 0 = m.bits
  /-- No part can be taken for two, or for nothing. -/
  inner : ∀ s ∈ fs.map EventFlag.name ++ ws.map hexWord, s ≠ [] ∧ ∀ c ∈ s, isInner c = true

theorem map_text_parts (m : EventMask) :
    m.parts.map Part.text = m.flags.map EventFlag.name ++ m.residueWords.map hexWord := by
  rw [parts_eq, List.map_append, List.map_map, List.map_map]
  rfl

theorem map_bits_parts (m : EventMask) :
    m.parts.map Part.bits = m.flags.map EventFlag.bits ++ m.residueWords := by
  rw [parts_eq, List.map_append, List.map_map, List.map_map]
  exact congrArg _ (List.map_id _)

/-- **A mask is written as its flags and its residue.** -/
theorem writtenAs (m : EventMask) : m.WrittenAs m.flags m.residueWords where
  text := by rw [EventMask.text, map_text_parts]
  flags f := by rw [mem_flags_iff, contains_mask_iff]
  nodup := m.nodup_flags
  declared := List.filter_sublist
  words_ne_nil := by
    rw [← residue_ne_zero_iff, residueWords]
    by_cases h : m.residue = 0 <;> simp [h]
  words w hw := by
    obtain ⟨hne, rfl⟩ := (m.mem_residueWords_iff w).mp hw
    exact ⟨if_neg hne, m.getLsbD_residue_iff⟩
  digits w hw := by
    obtain ⟨hne, rfl⟩ := (m.mem_residueWords_iff w).mp hw
    have hpos : m.residue.toNat ≠ 0 := fun h => hne (BitVec.eq_of_toNat_eq h)
    exact ⟨wordDigits m.residue, hexWord_eq _, fun c => mem_hexDigits_of_mem_ofNat,
      head?_ofNat_ne_zero hpos, readHex?_ofNat _⟩
  disjoint := by
    rw [← map_bits_parts, List.pairwise_map]
    exact m.pairwise_parts
  union := by
    rw [← map_bits_parts, List.foldl_map]
    exact congrArg bits m.ofParts_parts
  inner s hs := by
    rw [← map_text_parts] at hs
    obtain ⟨p, -, rfl⟩ := List.mem_map.mp hs
    exact ⟨p.text_ne_nil, fun c => Part.isInner_of_mem_text⟩

end EventMask

end FaultWatch

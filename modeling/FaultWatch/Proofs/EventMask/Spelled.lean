/-
  FaultWatch/Proofs/EventMask/Spelled.lean
  ========================================
  **Reading a mask.**

  A text spells a list of parts if these stand in it in order, with any white space around
  each, and with bars between them (`EventMask.Spells`).  Such a text is read as the union
  of its parts (`read_of_spells`).  The written form of a mask is one of the texts that
  spell its parts, and since a union does not depend on order or repetition, so is every
  text that has the same parts in another order, some of them more than once, and with
  other white space.  So all of these are read as the mask, and a mask is known by its
  text.
-/
import FaultWatch.Proofs.EventMask.Written
import Mathlib.Data.List.TakeWhile

namespace FaultWatch

open Text

/-! ### White space around a text -/

namespace Text

/-- The text is nothing but white space. -/
def Blank (s : Text) : Prop := ∀ c ∈ s, isBlank c = true

theorem isBlank_eq_false_of_isInner {c : Char} (hc : isInner c = true) : isBlank c = false := by
  simp only [isInner, Bool.and_eq_true, Bool.not_eq_true'] at hc
  exact hc.1

theorem dropWhile_blank_append {l : Text} (hl : Blank l) (s : Text) :
    (l ++ s).dropWhile isBlank = s.dropWhile isBlank :=
  List.dropWhile_append_of_pos hl

theorem dropWhile_append_of_inner {s : Text} (hne : s ≠ [])
    (hs : ∀ c ∈ s, isInner c = true) (r : Text) :
    (s ++ r).dropWhile isBlank = s ++ r := by
  cases s with
  | nil => exact absurd rfl hne
  | cons c rest =>
    have hc : isBlank c = false := isBlank_eq_false_of_isInner (hs c List.mem_cons_self)
    rw [List.cons_append, List.dropWhile_cons_of_neg (by simp [hc])]

/-- **White space around a text is dropped**, and nothing of the text. -/
theorem trim_around {l s r : Text} (hl : Blank l) (hr : Blank r) (hne : s ≠ [])
    (hs : ∀ c ∈ s, isInner c = true) : trim (l ++ s ++ r) = s := by
  have hr' : Blank r.reverse := fun c hc => hr c (List.mem_reverse.mp hc)
  have hs' : ∀ c ∈ s.reverse, isInner c = true := fun c hc => hs c (List.mem_reverse.mp hc)
  have hne' : s.reverse ≠ [] := by simpa using hne
  have hlast := dropWhile_append_of_inner hne' hs' []
  rw [List.append_nil] at hlast
  rw [trim, List.append_assoc, dropWhile_blank_append hl, dropWhile_append_of_inner hne hs,
    List.reverse_append, dropWhile_blank_append hr', hlast, List.reverse_reverse]

theorem trim_of_blank {s : Text} (hs : Blank s) : trim s = [] := by
  have hdrop : s.dropWhile isBlank = [] := List.dropWhile_eq_nil_iff.mpr hs
  rw [trim, hdrop]
  rfl

/-- A text with anything but white space in it is not dropped altogether. -/
theorem trim_ne_nil {s : Text} {c : Char} (hmem : c ∈ s) (hc : isBlank c = false) :
    trim s ≠ [] := by
  intro htrim
  rw [trim, List.reverse_eq_nil_iff, List.dropWhile_eq_nil_iff] at htrim
  cases hdrop : s.dropWhile isBlank with
  | nil =>
    rw [List.dropWhile_eq_nil_iff] at hdrop
    simp [hdrop c hmem] at hc
  | cons d rest =>
    -- what is left begins with a character that is no blank
    have hd : isBlank d = true := htrim d (by simp [hdrop])
    have hd' := List.head?_dropWhile_not isBlank s
    simp [hdrop, hd] at hd'

end Text

namespace EventMask

/-! ### Texts that spell parts -/

/-- The parts stand in the text in order, with white space around them and bars between
    them. -/
inductive Spells : List Part → Text → Prop where
  | none {s : Text} (hs : Blank s) : Spells [] s
  | last {l r : Text} (hl : Blank l) (p : Part) (hr : Blank r) : Spells [p] (l ++ p.text ++ r)
  | cons {l r s : Text} {ps : List Part} (hl : Blank l) (p : Part) (hr : Blank r)
    (hps : ps ≠ []) (h : Spells ps s) : Spells (p :: ps) (l ++ p.text ++ r ++ '|' :: s)

/-- There is no bar in a part with white space around it. -/
theorem bar_not_mem_around {l r : Text} (hl : Blank l) (p : Part) (hr : Blank r) :
    '|' ∉ l ++ p.text ++ r := by
  have hbar : isBlank '|' = false := by decide
  intro hmem
  rw [List.mem_append, List.mem_append] at hmem
  rcases hmem with (hmem | hmem) | hmem
  · simp [hl _ hmem] at hbar
  · exact absurd (Part.isInner_of_mem_text hmem) (by decide)
  · simp [hr _ hmem] at hbar

theorem read_around {l r : Text} (hl : Blank l) (p : Part) (hr : Blank r) :
    Part.read (trim (l ++ p.text ++ r)) = .ok p := by
  rw [trim_around hl hr p.text_ne_nil fun c => Part.isInner_of_mem_text, Part.read_text]

theorem splitOn_bar_of_not_mem {s : Text} (h : '|' ∉ s) : s.splitOn '|' = [s] := by
  apply List.splitOnP_eq_singleton
  intro c hc
  simpa using ne_of_mem_of_not_mem hc h

theorem splitOn_bar_append {s : Text} (h : '|' ∉ s) (rest : Text) :
    (s ++ '|' :: rest).splitOn '|' = s :: rest.splitOn '|' := by
  apply List.splitOnP_append_cons_of_forall_mem
  · intro c hc
    simpa using ne_of_mem_of_not_mem hc h
  · simp

theorem readParts_cons_ok {s : Text} {rest : List Text} {p : Part} {ps : List Part}
    (hp : Part.read (trim s) = .ok p) (hps : readParts rest = .ok ps) :
    readParts (s :: rest) = .ok (p :: ps) := by
  rw [readParts, hp, hps]
  rfl

/-- **The parts of a text are read in order.** -/
theorem readParts_of_spells {ps : List Part} {s : Text} (h : Spells ps s) (hps : ps ≠ []) :
    readParts (s.splitOn '|') = .ok ps := by
  induction h with
  | none => exact absurd rfl hps
  | last hl p hr =>
    rw [splitOn_bar_of_not_mem (bar_not_mem_around hl p hr)]
    exact readParts_cons_ok (read_around hl p hr) rfl
  | cons hl p hr hrest _ ih =>
    rw [splitOn_bar_append (bar_not_mem_around hl p hr)]
    exact readParts_cons_ok (read_around hl p hr) (ih hrest)

theorem exists_mem_of_spells {ps : List Part} {s : Text} (h : Spells ps s) (hps : ps ≠ []) :
    ∃ c ∈ s, isBlank c = false := by
  -- the first part has a character, and it is no blank
  have hfirst : ∀ p : Part, ∃ c ∈ p.text, isBlank c = false := by
    intro p
    obtain ⟨c, rest, hc⟩ := List.exists_cons_of_ne_nil p.text_ne_nil
    have hmem : c ∈ p.text := by simp [hc]
    exact ⟨c, hmem, isBlank_eq_false_of_isInner (Part.isInner_of_mem_text hmem)⟩
  cases h with
  | none => exact absurd rfl hps
  | last _ p _ | cons _ p =>
    obtain ⟨c, hmem, hc⟩ := hfirst p
    exact ⟨c, by simp [hmem], hc⟩

/-- **A text that spells parts is read as their union.** -/
theorem read_of_spells {ps : List Part} {s : Text} (h : Spells ps s) :
    read s = .ok (ofParts ps) := by
  cases ps with
  | nil =>
    cases h with
    | none hs => rw [read, if_pos (trim_of_blank hs)]; rfl
  | cons p rest =>
    have hne : p :: rest ≠ [] := by simp
    obtain ⟨c, hmem, hc⟩ := exists_mem_of_spells h hne
    rw [read, if_neg (trim_ne_nil hmem hc), readParts_of_spells h hne]
    rfl

/-! ### The written form -/

/-- Parts written with a blank, a bar and a blank between them are spelled. -/
theorem spells_intercalate (ps : List Part) :
    Spells ps (" | ".toList.intercalate (ps.map Part.text)) := by
  have hnone : Blank [] := by simp [Blank]
  have hspace : Blank [' '] := by simp [Blank, isBlank]
  -- the blank behind a bar stands before the next part, so it is handed on
  have lead : ∀ (ps : List Part) (l : Text), Blank l → ps ≠ [] →
      Spells ps (l ++ " | ".toList.intercalate (ps.map Part.text)) := by
    intro ps
    induction ps with
    | nil => intro l _ hps; exact absurd rfl hps
    | cons p rest ih =>
      intro l hl _
      cases rest with
      | nil => simpa using Spells.last hl p hnone
      | cons q rest =>
        have hrest := ih [' '] hspace (by simp)
        have hcons := Spells.cons hl p hspace (by simp) hrest
        simpa [List.intercalate] using hcons
  cases ps with
  | nil => exact .none hnone
  | cons p rest => exact lead _ [] hnone (by simp)

theorem spells_text (m : EventMask) : Spells m.parts m.text := spells_intercalate m.parts

/-- Whatever is spelled with the parts of a mask, in any order and any number, is read as
    the mask. -/
theorem read_of_same_parts {m : EventMask} {ps : List Part} {s : Text} (h : Spells ps s)
    (hsame : ∀ p, p ∈ ps ↔ p ∈ m.parts) : read s = .ok m := by
  rw [read_of_spells h, ofParts_eq_of_mem_iff hsame, ofParts_parts]

/-- **The text of a mask is an exact encoding.**  It is written as its flags and its
    residue; it is read back from its text, and from any text with the same parts in any
    order, each as often as one likes, and with any white space around them; so no two
    masks have one text. -/
theorem text_exact (m : EventMask) :
    (∃ fs ws, m.WrittenAs fs ws ∧ m.parts = fs.map .flag ++ ws.map .word) ∧
    read m.text = .ok m ∧
    Spells m.parts m.text ∧
    (∀ ps s, Spells ps s → (∀ p, p ∈ ps ↔ p ∈ m.parts) → read s = .ok m) ∧
    ∀ m' : EventMask, m'.text = m.text → m' = m := by
  have hread : ∀ m : EventMask, read m.text = .ok m := fun m =>
    read_of_same_parts m.spells_text fun _ => Iff.rfl
  refine ⟨⟨_, _, m.writtenAs, m.parts_eq⟩, hread m, m.spells_text, ?_, ?_⟩
  · intro ps s h hsame
    exact read_of_same_parts h hsame
  · intro m' htext
    have hboth := hread m'
    rw [htext, hread m] at hboth
    exact (Except.ok.inj hboth).symm

/-- A flag that is named twice, behind a residue and with other white space. -/
example : read "0x80000000|MONITOR_GC |\u3000MONITOR_GC".toList = .ok ⟨0x80000080⟩ := by
  decide

end EventMask

end FaultWatch

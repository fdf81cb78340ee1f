/-
  FaultWatch/Proofs/Text/Form.lean
  ================================
  **Forms to be filled in.**

  A value may be written out several times, with the same words but for a flag here and
  there.  What all these texts have in common is a *form*: a text with gaps, one for each
  flag.  Texts with a form can be put together, and so can the layouts of shapes
  (`HasForm.node`); so it is enough to say where the flags are.
-/
import FaultWatch.Text.Shape

namespace FaultWatch

/-- A text with gaps for the flags of certain things. -/
structure Form (ι : Type) where
  /-- The gaps, each with what stands between the gap before and it. -/
  gaps : List (Text × ι)
  trail : Text

namespace Form

variable {ι : Type}

/-- The things whose flags are to be filled in, in order. -/
def holes (form : Form ι) : List ι := form.gaps.map (·.2)

def fill (form : Form ι) (flag : ι → Bool) : Text :=
  form.gaps.flatMap (fun (lead, i) => lead ++ if flag i then "true".toList else "false".toList) ++
    form.trail

def append (a b : Form ι) : Form ι :=
  match b.gaps with
  | [] => ⟨a.gaps, a.trail ++ b.trail⟩
  | (lead, i) :: rest => ⟨a.gaps ++ (a.trail ++ lead, i) :: rest, b.trail⟩

theorem holes_append (a b : Form ι) : (a.append b).holes = a.holes ++ b.holes := by
  obtain ⟨gaps, trail⟩ := b
  cases gaps <;> simp [append, holes]

theorem fill_append (a b : Form ι) (flag : ι → Bool) :
    (a.append b).fill flag = a.fill flag ++ b.fill flag := by
  obtain ⟨gaps, trail⟩ := b
  cases gaps with
  | nil => simp only [append, fill, List.flatMap_nil, List.nil_append, List.append_assoc]
  | cons gap rest =>
    simp only [append, fill, List.flatMap_append, List.flatMap_cons, List.append_assoc]

end Form

/-- The texts, one for each choice of flags, are one form filled in, which has gaps for
    these things. -/
def HasForm {ι : Type} (holes : List ι) (text : (ι → Bool) → Text) : Prop :=
  ∃ form : Form ι, form.holes = holes ∧ ∀ flag, text flag = form.fill flag

namespace HasForm

variable {ι : Type} {xs ys : List ι} {text text' : (ι → Bool) → Text}

theorem const (t : Text) : HasForm ([] : List ι) fun _ => t :=
  ⟨⟨[], t⟩, rfl, fun _ => rfl⟩

theorem ofBool (i : ι) : HasForm [i] fun flag => (Shape.ofBool (flag i)).inline := by
  refine ⟨⟨[([], i)], []⟩, rfl, ?_⟩
  intro flag
  simp only [Shape.ofBool, Shape.inline, Form.fill, List.flatMap_cons, List.flatMap_nil,
    List.nil_append, List.append_nil]

theorem append (h : HasForm xs text) (h' : HasForm ys text') :
    HasForm (xs ++ ys) fun flag => text flag ++ text' flag := by
  obtain ⟨form, rfl, hfill⟩ := h
  obtain ⟨form', rfl, hfill'⟩ := h'
  refine ⟨form.append form', form.holes_append form', ?_⟩
  intro flag
  simp only [form.fill_append, hfill, hfill']

/-! ### Layouts -/

/-- A part of a shape: its label, the things it has the flags of, and what it is for each
    choice of flags. -/
abbrev Part (ι : Type) := Text × List ι × ((ι → Bool) → Shape)

theorem parts {parts : List (Part ι)}
    (h : ∀ part ∈ parts, HasForm part.2.1 fun flag => (part.2.2 flag).inline) :
    HasForm (parts.flatMap fun part => part.2.1) fun flag =>
      [',', ' '].intercalate
        (Shape.inlineParts (parts.map fun part => (part.1, part.2.2 flag))) := by
  -- a separator stands before each part but the first, so one more part is looked at
  induction parts with
  | nil => exact const []
  | cons part rest ih =>
    obtain ⟨label, holes, shape⟩ := part
    have hpart : HasForm holes fun flag => label ++ (shape flag).inline :=
      (const label).append (h (label, holes, shape) (by simp))
    cases rest with
    | nil => simpa [Shape.inlineParts, List.intercalate] using hpart
    | cons next rest =>
      have hrest := ih fun part hmem => h part (List.mem_cons_of_mem _ hmem)
      have hwhole := hpart.append ((const [',', ' ']).append hrest)
      simpa [Shape.inlineParts, List.intercalate] using hwhole

/-- **A shape has a form if its parts have.** -/
theorem node (name : Text) (b : Brackets) (parts : List (Part ι))
    (h : ∀ part ∈ parts, HasForm part.2.1 fun flag => (part.2.2 flag).inline) :
    HasForm (parts.flatMap fun part => part.2.1) fun flag =>
      (Shape.node name b (parts.map fun part => (part.1, part.2.2 flag))).inline := by
  cases parts with
  | nil => simpa [Shape.inline] using const (name ++ b.bare)
  | cons part rest =>
    have hparts := HasForm.parts h
    have hwhole := ((const (name ++ b.opening)).append hparts).append (const b.closing)
    simpa [Shape.inline] using hwhole

end HasForm

end FaultWatch

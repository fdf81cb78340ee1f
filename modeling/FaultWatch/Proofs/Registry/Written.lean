/-
  FaultWatch/Proofs/Registry/Written.lean
  =======================================
  **Locks in the written form of a registry.**

  A record is written out with its lock, and a registry with all its records.  Whether
  the lock of a record is poisoned shows there in one word, always at the same place: the
  written forms that differ in such locks only are all made from one form, with a gap for
  each record (`Record.hasForm`, `Registry.hasForm`).
-/
import FaultWatch.Proofs.Text.Form
import FaultWatch.Registry.Fleet

namespace FaultWatch

/-- **A record is written with one gap for its lock.** -/
theorem Record.hasForm (ref : RecordRef) (i : Info) :
    HasForm [ref] fun locked => (Record.shape ⟨i, locked ref⟩).inline := by
  have hlock : HasForm [ref] fun locked => (Guarded.shape ⟨i, locked ref⟩ Info.shape).inline :=
    HasForm.node "Mutex".toList .openBraces
      [(Shape.fieldLabel "data", [], fun _ => i.shape),
        (Shape.fieldLabel "poisoned", [ref], fun locked => .ofBool (locked ref))]
      (by simpa using ⟨HasForm.const _, HasForm.ofBool ref⟩)
  exact HasForm.node "ExceptionState".toList .braces
    [(Shape.fieldLabel "info", [ref], fun locked => Guarded.shape ⟨i, locked ref⟩ Info.shape)]
    (by simpa using hlock)

namespace Registry

/-- The rows of a table with these entries, with the given records behind the
    references. -/
def rowsWith (found : List (ThreadId × RecordRef)) (records : RecordRef → Record) : Shape :=
  .table (found.map fun (t, ref) => (t.tagged, (records ref).shape))

/-- The registry written out with the given records in the place of its own. -/
def shapeWith (r : Registry) (found : List (ThreadId × RecordRef))
    (records : RecordRef → Record) : Shape :=
  .fields "ThreadRegistry"
    [("records", r.table.shape fun _ => rowsWith found records), ("config", r.config.shape)]

theorem shapeOf_eq_shapeWith (r : Registry) (found : List (ThreadId × RecordRef)) :
    r.shapeOf found = r.shapeWith found r.store.get := rfl

theorem hasForm_rowsWith (found : List (ThreadId × RecordRef)) (infos : RecordRef → Info) :
    HasForm (found.map (·.2)) fun locked =>
      (rowsWith found fun ref => ⟨infos ref, locked ref⟩).inline := by
  have hnode := HasForm.node [] .table
    (found.map fun (t, ref) =>
      (t.tagged ++ ": ".toList, [ref], fun locked => Record.shape ⟨infos ref, locked ref⟩))
    (by
      intro part hmem
      obtain ⟨⟨t, ref⟩, -, rfl⟩ := List.mem_map.mp hmem
      exact Record.hasForm ref (infos ref))
  have hholes : (found.flatMap fun entry => [entry.2]) = found.map (·.2) :=
    List.map_eq_flatMap.symm
  simpa [rowsWith, Shape.table, List.flatMap_map, hholes, Function.comp_def] using hnode

/-- **A registry is written with one gap for each of its records**, in whatever order its
    table meets them. -/
theorem hasForm (r : Registry) (found : List (ThreadId × RecordRef)) (infos : RecordRef → Info) :
    HasForm (found.map (·.2)) fun locked =>
      (r.shapeWith found fun ref => ⟨infos ref, locked ref⟩).inline := by
  have hlock := HasForm.node "Mutex".toList .openBraces
    [(Shape.fieldLabel "data", _, fun locked =>
        rowsWith found fun ref => ⟨infos ref, locked ref⟩),
      (Shape.fieldLabel "poisoned", [], fun _ => .ofBool r.table.poisoned)]
    (by simpa using ⟨hasForm_rowsWith found infos, HasForm.const _⟩)
  have hwhole := HasForm.node "ThreadRegistry".toList .braces
    [(Shape.fieldLabel "records", _, fun locked =>
        r.table.shape fun _ => rowsWith found fun ref => ⟨infos ref, locked ref⟩),
      (Shape.fieldLabel "config", [], fun _ => r.config.shape)]
    (by simpa using ⟨hlock, HasForm.const _⟩)
  simpa [shapeWith, Shape.fields] using hwhole

end Registry

end FaultWatch

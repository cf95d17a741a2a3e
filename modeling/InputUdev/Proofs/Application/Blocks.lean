import Mathlib.Data.List.Forall2
import InputUdev.Application

/-!
# The output in lines

What the block of lines for a device is (`Device.Prints`): its path, its node if it has one, its
subsystem and its properties in order, and then the path, the properties and the attributes of its
parent, of the parent's parent and so on. The program prints this block and no other
(`Device.prints_iff`). No line of it is empty (`Device.Prints.not_mem_empty`), and the output of a
run has exactly one empty line between two blocks (`Application.output_eq`).
-/

namespace InputUdev

/-- The text of some lines, each of them ended. -/
def textOf (lines : List String) : String := String.join (lines.map (· ++ "\n"))

theorem textOf_cons (line : String) (lines : List String) :
    textOf (line :: lines) = line ++ "\n" ++ textOf lines := by
  rw [textOf, List.map_cons, String.join_cons, textOf]

theorem textOf_append (lines lines' : List String) :
    textOf (lines ++ lines') = textOf lines ++ textOf lines' := by
  rw [textOf, List.map_append, String.join_append, textOf, textOf]

theorem intercalate_textOf (blocks : List (List String)) :
    String.intercalate "\n" (blocks.map textOf) = textOf ([""].intercalate blocks) := by
  induction blocks with
  | nil => rfl
  | cons block blocks ih =>
    cases blocks with
    | nil => simp [String.intercalate_singleton]
    | cons next blocks =>
      rw [List.map_cons] at ih ⊢
      rw [List.map_cons, String.intercalate_cons_cons, ih, List.intercalate_cons_cons,
        textOf_append, textOf_append, textOf_cons]
      simp [textOf]

/-! ## The block of a device -/

/-- The lines show the entries in order, each of them after the mark. -/
inductive ShowsEntries (mark : String) : List (String × String) → List String → Prop
  | nil : ShowsEntries mark [] []
  | cons : ShowsEntries mark entries lines →
    ShowsEntries mark ((key, value) :: entries) ((mark ++ key ++ "=" ++ value) :: lines)

inductive ShowsNode : Option String → List String → Prop
  | none : ShowsNode none []
  | some : ShowsNode (some node) ["N: " ++ node]

/-- The lines show a parent, if there is one, and then its own parent and so on. -/
inductive ShowsParents : Option Device → List String → Prop
  | none : ShowsParents none []
  | some : ShowsEntries "    E: " q.properties.toList properties →
    ShowsEntries "    A: " q.sysattrs.toList sysattrs → ShowsParents q.parent? rest →
    ShowsParents (some q) (("  parent: " ++ q.syspath) :: (properties ++ sysattrs ++ rest))

/-- The lines are the block of the device. -/
inductive Device.Prints (d : Device) : List String → Prop
  | intro : ShowsNode d.devnode node → ShowsEntries "E: " d.properties.toList properties →
    ShowsParents d.parent? parents →
    d.Prints (("P: " ++ d.syspath) :: (node ++ ("E: SUBSYSTEM=" ++ d.subsystem) ::
      (properties ++ parents)))

variable {mark : String} {e : Entries} {d : Device} {node : Option String} {lines : List String}

theorem showsEntries_iff : ShowsEntries mark e.toList lines ↔ lines = entryLines mark e := by
  rw [entryLines]
  generalize e.toList = entries
  constructor
  · intro h
    induction h with
    | nil => rfl
    | cons _ ih => rw [ih]; rfl
  · rintro rfl
    induction entries with
    | nil => exact .nil
    | cons entry entries ih => exact .cons ih

theorem showsNode_iff : ShowsNode node lines ↔ lines = node.toList.map ("N: " ++ ·) := by
  constructor
  · intro h
    cases h <;> rfl
  · rintro rfl
    cases node with
    | none => exact .none
    | some node => exact .some

theorem showsParents_iff :
    ShowsParents d.parent? lines ↔ lines = d.ancestors.flatMap (·.parentLines) := by
  obtain ⟨r, ancestors⟩ := d
  induction ancestors generalizing r lines with
  | nil =>
    constructor
    · intro h
      cases h
      rfl
    · rintro rfl
      exact .none
  | cons q ancestors ih =>
    constructor
    · intro h
      cases h with
      | some hproperties hsysattrs hrest =>
        rw [showsEntries_iff.mp hproperties, showsEntries_iff.mp hsysattrs, (ih q).mp hrest]
        rfl
    · rintro rfl
      exact .some (showsEntries_iff.mpr rfl) (showsEntries_iff.mpr rfl) ((ih q).mpr rfl)

/-- The program prints the block of the device and no other lines. -/
theorem Device.prints_iff : d.Prints lines ↔ lines = d.lines := by
  constructor
  · intro h
    cases h with
    | intro hnode hproperties hparents =>
      rw [showsNode_iff.mp hnode, showsEntries_iff.mp hproperties, showsParents_iff.mp hparents]
      simp [Device.lines]
  · rintro rfl
    have hprints := Device.Prints.intro (showsNode_iff.mpr rfl) (showsEntries_iff.mpr rfl)
      (showsParents_iff.mpr rfl) (d := d)
    simpa [Device.lines] using hprints

theorem ShowsEntries.not_mem_empty {entries : List (String × String)}
    (h : ShowsEntries mark entries lines) (hmark : mark ≠ "") : "" ∉ lines := by
  induction h with
  | nil => exact List.not_mem_nil
  | cons _ ih => simp [ih, hmark]

theorem ShowsNode.not_mem_empty (h : ShowsNode node lines) : "" ∉ lines := by
  cases h <;> simp

theorem ShowsParents.not_mem_empty {q : Option Device} (h : ShowsParents q lines) : "" ∉ lines := by
  induction h with
  | none => exact List.not_mem_nil
  | some hproperties hsysattrs _ ih =>
    simp [ih, hproperties.not_mem_empty, hsysattrs.not_mem_empty]

theorem Device.Prints.not_mem_empty (h : d.Prints lines) : "" ∉ lines := by
  cases h with
  | intro hnode hproperties hparents =>
    simp [hnode.not_mem_empty, hproperties.not_mem_empty, hparents.not_mem_empty]

/-- The lines for the device at a path. -/
def Classifier.block (k : Classifier) (path : String) : List String :=
  (k.deviceFor path .add).device.lines

theorem Classifier.forall₂_prints_iff {k : Classifier} {paths : List String}
    {blocks : List (List String)} :
    List.Forall₂ (fun path block => (k.deviceFor path .add).device.Prints block) paths blocks ↔
      blocks = paths.map k.block := by
  constructor
  · intro h
    induction h with
    | nil => rfl
    | cons hblock _ ih => rw [Device.prints_iff.mp hblock, ih]; rfl
  · rintro rfl
    rw [List.forall₂_map_right_iff, List.forall₂_same]
    exact fun path _ => Device.prints_iff.mpr rfl

theorem Application.output_eq (app : Application) (paths : List String) :
    app.output paths = textOf ([""].intercalate (paths.map app.classifier.block)) := by
  rw [← intercalate_textOf, List.map_map]
  rfl

end InputUdev

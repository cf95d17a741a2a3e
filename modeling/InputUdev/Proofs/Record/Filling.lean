import InputUdev.Proofs.Record.Insertions

/-!
# Filling a record

The calls that fill a record insert properties and attributes and change nothing else
(`Device.fill_eq`). Main statement: each of the two lists what was inserted in it, and devices that
are made alike, with all their ancestors, are equal exactly if at each level the last values agree
for every key (`Device.fill_lists_and_same`).
-/

namespace InputUdev

/-- A call that fills a record. -/
inductive Filling where
  | property (key value : String)
  | sysattr (key value : String)
  | mark (c : DeviceClass)

namespace Filling

def apply (d : Device) : Filling → Device
  | property key value => d.insertProperty key value
  | sysattr key value => d.insertSysattr key value
  | mark c => d.mark c

/-- The properties that the call inserts, in order. -/
def properties : Filling → List (String × String)
  | property key value => [(key, value)]
  | sysattr _ _ => []
  | mark c => (Device.marks c).map (·, "1")

/-- The attributes that the call inserts. -/
def sysattrs : Filling → List (String × String)
  | sysattr key value => [(key, value)]
  | property _ _ | mark _ => []

/-- The calls leave the same last value for each key, among properties and among attributes. -/
structure Agree (calls calls' : List Filling) : Prop where
  properties : ∀ key, Entries.lastValue? (calls.flatMap properties) key =
    Entries.lastValue? (calls'.flatMap properties) key
  sysattrs : ∀ key, Entries.lastValue? (calls.flatMap sysattrs) key =
    Entries.lastValue? (calls'.flatMap sysattrs) key

end Filling

/-- A call that makes a device. -/
inductive Creation where
  | bare (path : String) (action : Action)
  | ofNode (rules : RuleTable) (path : String) (action : Action)

def Creation.device : Creation → Device
  | bare path action => .bare path action
  | ofNode rules path action => .ofNode rules path action

/-- Fills a device by calls, from the first to the last. -/
def Device.fill (d : Device) (calls : List Filling) : Device := calls.foldl Filling.apply d

/-- One level of two devices that are made alike: the call that makes it in both, and the calls that
fill it in the one and in the other. -/
structure Twins where
  creation : Creation
  calls : List Filling
  calls' : List Filling

/-- The device of a level and of the levels of its ancestors, filled at each by the calls chosen
from the two. -/
def Twins.device (chosen : Twins → List Filling) (t : Twins) : List Twins → Device
  | [] => t.creation.device.fill (chosen t)
  | parent :: ancestors =>
    (t.creation.device.fill (chosen t)).setParent (device chosen parent ancestors)

namespace Device

variable {d d' p p' : Device} {calls calls' : List Filling}

theorem insertAll_map_eq_setAll (e : Entries) (keys : List String) (value : String) :
    e.insertAll (keys.map (·, value)) = e.setAll keys value := by
  rw [Entries.insertAll, List.foldl_map, Entries.setAll]

theorem apply_eq (call : Filling) : call.apply d =
    { d with properties := d.properties.insertAll call.properties,
             sysattrs := d.sysattrs.insertAll call.sysattrs } := by
  cases call with
  | property | sysattr => rfl
  | mark c =>
    rw [Filling.apply, mark_eq, ← insertAll_map_eq_setAll]
    rfl

theorem fill_eq (calls : List Filling) : d.fill calls =
    { d with properties := d.properties.insertAll (calls.flatMap Filling.properties),
             sysattrs := d.sysattrs.insertAll (calls.flatMap Filling.sysattrs) } := by
  induction calls generalizing d with
  | nil => rfl
  | cons call calls ih =>
    rw [fill, List.foldl_cons, ← fill, ih, apply_eq, List.flatMap_cons, List.flatMap_cons]
    simp only [Entries.insertAll, List.foldl_append]

theorem lists_properties_fill (d : Device) (calls : List Filling) :
    (d.fill calls).properties.Lists
      (d.properties.toList ++ calls.flatMap Filling.properties) := by
  rw [fill_eq]
  exact d.properties.lists_toList.insertAll _

theorem lists_sysattrs_fill (d : Device) (calls : List Filling) :
    (d.fill calls).sysattrs.Lists (d.sysattrs.toList ++ calls.flatMap Filling.sysattrs) := by
  rw [fill_eq]
  exact d.sysattrs.lists_toList.insertAll _

/-! ## Devices made alike -/

theorem toList_properties_creation (c : Creation) : c.device.properties.toList = [] := by
  cases c <;> rfl

theorem toList_sysattrs_creation (c : Creation) : c.device.sysattrs.toList = [] := by
  cases c <;> rfl

theorem ancestors_fill_creation (c : Creation) : (c.device.fill calls).ancestors = [] := by
  rw [fill_eq]
  cases c <;> rfl

/-- A new device holds what the calls inserted, and nothing else. -/
theorem get?_fill_creation (c : Creation) (calls : List Filling) (key : String) :
    (c.device.fill calls).properties.get? key =
        Entries.lastValue? (calls.flatMap Filling.properties) key ∧
      (c.device.fill calls).sysattrs.get? key =
        Entries.lastValue? (calls.flatMap Filling.sysattrs) key := by
  have hproperties := (lists_properties_fill c.device calls).get?_eq key
  have hsysattrs := (lists_sysattrs_fill c.device calls).get?_eq key
  rw [toList_properties_creation, List.nil_append] at hproperties
  rw [toList_sysattrs_creation, List.nil_append] at hsysattrs
  exact ⟨hproperties, hsysattrs⟩

/-! ## Equality -/

theorem same_withEntries_iff (r : Record) (properties sysattrs properties' sysattrs' : Entries) :
    Record.same { r with properties := properties, sysattrs := sysattrs }
      { r with properties := properties', sysattrs := sysattrs' } = true ↔
    properties.same properties' = true ∧ sysattrs.same sysattrs' = true := by
  simp [Record.same]

theorem same_toRecord_fill_iff (c : Creation) :
    (c.device.fill calls).toRecord.same (c.device.fill calls').toRecord = true ↔
      Filling.Agree calls calls' := by
  have hsame : (c.device.fill calls).toRecord.same (c.device.fill calls').toRecord = true ↔
      (c.device.fill calls).properties.same (c.device.fill calls').properties = true ∧
        (c.device.fill calls).sysattrs.same (c.device.fill calls').sysattrs = true := by
    rw [fill_eq, fill_eq]
    exact same_withEntries_iff ..
  simp only [hsame, Entries.same_iff, (get?_fill_creation c _ _).1, (get?_fill_creation c _ _).2]
  exact ⟨fun h => ⟨h.1, h.2⟩, fun h => ⟨h.properties, h.sysattrs⟩⟩

theorem same_iff_of_ancestors_nil (h : d.ancestors = []) (h' : d'.ancestors = []) :
    d.same d' = true ↔ d.toRecord.same d'.toRecord = true := by
  simp [same, lineage, h, h']

/-- Beside the two records, the parents are compared, with all of their own ancestors. -/
theorem same_setParent_iff : (d.setParent p).same (d'.setParent p') = true ↔
    d.toRecord.same d'.toRecord = true ∧ p.same p' = true := by
  have hlineage (q r : Device) : (q.setParent r).lineage = q.toRecord :: r.lineage := rfl
  simp [same, hlineage, and_left_comm]

theorem same_fill_iff (c : Creation) :
    (c.device.fill calls).same (c.device.fill calls') = true ↔ Filling.Agree calls calls' := by
  rw [same_iff_of_ancestors_nil (ancestors_fill_creation c) (ancestors_fill_creation c),
    same_toRecord_fill_iff]

theorem same_twins_iff (t : Twins) (ancestors : List Twins) :
    (t.device Twins.calls ancestors).same (t.device Twins.calls' ancestors) = true ↔
      ∀ u ∈ t :: ancestors, Filling.Agree u.calls u.calls' := by
  induction ancestors generalizing t with
  | nil =>
    rw [List.forall_mem_singleton]
    exact same_fill_iff t.creation
  | cons parent ancestors ih =>
    rw [List.forall_mem_cons, ← ih parent, ← same_toRecord_fill_iff t.creation]
    exact same_setParent_iff

/-- The calls that fill a device insert properties and attributes, apart from each other. Each of
the two lists every key once, by its first insertion, with the value of its last one, and a look-up
gives that value, or nothing if the key was never inserted. Devices that are made alike begin with
no entries, and are equal exactly if the last values agree for every key, whatever the order of the
calls. With parents, these have to be equal as well, and so on at each level. -/
theorem fill_lists_and_same :
    (∀ (d : Device) (calls : List Filling),
      (d.fill calls).properties.Lists (d.properties.toList ++ calls.flatMap Filling.properties) ∧
      (d.fill calls).sysattrs.Lists (d.sysattrs.toList ++ calls.flatMap Filling.sysattrs) ∧
      ∀ key,
        (d.fill calls).property? key =
          Entries.lastValue? (d.properties.toList ++ calls.flatMap Filling.properties) key ∧
        (d.fill calls).sysattr? key =
          Entries.lastValue? (d.sysattrs.toList ++ calls.flatMap Filling.sysattrs) key) ∧
    (∀ (pairs : List (String × String)) (key : String),
      Entries.lastValue? pairs key = none ↔ key ∉ pairs.map Prod.fst) ∧
    (∀ c : Creation, c.device.properties.toList = [] ∧ c.device.sysattrs.toList = []) ∧
    (∀ (c : Creation) (calls calls' : List Filling),
      ((c.device.fill calls).same (c.device.fill calls') = true ↔ Filling.Agree calls calls') ∧
      ∀ parent parent' : Device,
        ((c.device.fill calls).setParent parent).same ((c.device.fill calls').setParent parent') =
            true ↔
          Filling.Agree calls calls' ∧ parent.same parent' = true) ∧
    ∀ (t : Twins) (ancestors : List Twins),
      (t.device Twins.calls ancestors).same (t.device Twins.calls' ancestors) = true ↔
        ∀ u ∈ t :: ancestors, Filling.Agree u.calls u.calls' := by
  refine ⟨fun d calls => ?_, fun _ _ => Entries.lastValue?_eq_none_iff,
    fun c => ⟨toList_properties_creation c, toList_sysattrs_creation c⟩, fun c calls calls' => ?_,
    same_twins_iff⟩
  · have hproperties := lists_properties_fill d calls
    have hsysattrs := lists_sysattrs_fill d calls
    exact ⟨hproperties, hsysattrs, fun key => ⟨hproperties.get?_eq key, hsysattrs.get?_eq key⟩⟩
  · refine ⟨same_fill_iff c, fun parent parent' => ?_⟩
    rw [same_setParent_iff, same_toRecord_fill_iff]

end Device
end InputUdev

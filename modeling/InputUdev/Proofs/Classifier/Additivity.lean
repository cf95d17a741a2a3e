import InputUdev.Proofs.Classifier.Outcome

/-!
# A classification only adds to a device

Main statement: a dispatch that finds a class leaves the properties of the device where they are,
sets the marks of the class and adds the missing ones at the end, and no run of dispatches and
markings loses a property (`Classifier.dispatch_additive`). `Device.Marked` says what a successful
dispatch may change.
-/

namespace InputUdev

namespace Device

/-- The device `d'` is `d` with the marks of a class, but for its parent. -/
structure Marked (c : DeviceClass) (d d' : Device) : Prop where
  syspath : d'.syspath = d.syspath
  sysname : d'.sysname = d.sysname
  devnode : d'.devnode = d.devnode
  subsystem : d'.subsystem = d.subsystem
  action : d'.action = d.action
  sysattrs : d'.sysattrs.toList = d.sysattrs.toList
  /-- A property keeps its place, and its value unless it is a mark. -/
  kept : ∀ (i : Nat) (key value : String), d.properties.toList[i]? = some (key, value) →
    d'.properties.toList[i]? = some (key, if key ∈ marks c then "1" else value)
  set : ∀ key ∈ marks c, d'.property? key = some "1"
  /-- Behind the properties that were there stand the marks that were missing, and nothing else. -/
  added : d'.properties.toList.drop d.properties.toList.length =
    ((marks c).filter (· ∉ d.properties.keys)).map (·, "1")

variable {d : Device} {c : DeviceClass}

theorem toList_properties_mark :
    (d.mark c).properties.toList =
      d.properties.toList.map (fun p => (p.1, if p.1 ∈ marks c then "1" else p.2)) ++
        ((marks c).filter (· ∉ d.properties.keys)).map (·, "1") := by
  rw [mark_eq]
  exact Entries.toList_setAll (nodup_marks c)

theorem marked_mark : Marked c d (d.mark c) where
  syspath := syspath_mark
  sysname := sysname_mark
  devnode := by rw [mark_eq]
  subsystem := by rw [mark_eq]
  action := by rw [mark_eq]
  sysattrs := by rw [mark_eq]
  kept i key value h := by
    have hlt : i < d.properties.toList.length := (List.getElem?_eq_some_iff.mp h).1
    rw [toList_properties_mark, List.getElem?_append_left (by simpa using hlt), List.getElem?_map,
      h]
    rfl
  set key hkey := by
    rw [mark_eq, Record.property?, Entries.get?_setAll, if_pos hkey]
  added := by
    rw [toList_properties_mark, List.drop_left' (List.length_map _)]

/-- The parent of a device has no part in what its marks are. -/
theorem Marked.attachParent {d' : Device} (h : Marked c d d') (info : ParentInfo) :
    Marked c d (d'.attachParent info) := by
  obtain ⟨hsyspath, hsysname, hdevnode, hsubsystem, haction, hsysattrs, hkept, hset, hadded⟩ := h
  exact ⟨hsyspath, hsysname, hdevnode, hsubsystem, haction, hsysattrs, hkept, hset, hadded⟩

theorem marked_outfit (parent? : Option ParentInfo) : Marked c d (d.outfit c parent?) := by
  cases parent? with
  | none => exact marked_mark
  | some info => exact marked_mark.attachParent info

theorem keys_prefix_mark : d.properties.keys <+: (d.mark c).properties.keys := by
  rw [mark_eq, Entries.keys_setAll (nodup_marks c)]
  exact List.prefix_append ..

theorem keys_prefix_outfit (parent? : Option ParentInfo) :
    d.properties.keys <+: (d.outfit c parent?).properties.keys := by
  cases parent? with
  | none => exact keys_prefix_mark
  | some info => exact keys_prefix_mark

end Device

namespace Classifier

/-- A step that may mark a device: a dispatch by some classifier, or a marking by hand. -/
inductive Marking where
  | dispatch (k : Classifier)
  | mark (c : DeviceClass)

def Marking.apply (d : Device) : Marking → Device
  | dispatch k => (k.dispatch d).device
  | mark c => d.mark c

theorem Marking.keys_prefix_apply (d : Device) (m : Marking) :
    d.properties.keys <+: (m.apply d).properties.keys := by
  cases m with
  | dispatch k =>
    rw [apply]
    rcases k.dispatch_cases d with ⟨-, hdevice⟩ | ⟨h, c, parent?, -, -, -, hdevice⟩
    · simp only [hdevice, List.prefix_rfl]
    · rw [hdevice]
      exact Device.keys_prefix_outfit parent?
  | mark c => exact Device.keys_prefix_mark

theorem keys_prefix_foldl_apply (d : Device) (ms : List Marking) :
    d.properties.keys <+: (ms.foldl Marking.apply d).properties.keys := by
  induction ms generalizing d with
  | nil => exact List.prefix_rfl
  | cons m ms ih => exact (m.keys_prefix_apply d).trans (ih (m.apply d))

/-- A dispatch that finds a class marks the device with it and changes nothing else but its parent,
and no run of dispatches and markings loses a property or moves it. -/
theorem dispatch_additive (k : Classifier) (d : Device) :
    (∀ c, (k.dispatch d).verdict = some c → d.Marked c (k.dispatch d).device) ∧
      ∀ ms : List Marking, d.properties.keys <+: (ms.foldl Marking.apply d).properties.keys := by
  refine ⟨fun c hc => ?_, keys_prefix_foldl_apply d⟩
  rcases k.dispatch_cases d with ⟨hnone, -⟩ | ⟨h, c', parent?, -, -, hverdict, hdevice⟩
  · rw [hnone] at hc
    cases hc
  · rw [hverdict] at hc
    cases hc
    rw [hdevice]
    exact Device.marked_outfit parent?

end Classifier
end InputUdev

import InputUdev.EventSource
import InputUdev.Proofs.CodeSet.Contents

/-!
# Answers to probes

A node leads to the device that is tracked for it, or else to the one that is opened at it
(`EventSource.LeadsTo`). Main statements: a probe succeeds exactly if the node leads to a device
with a name, and tells what the device reports (`EventSource.capabilities_cases`); to track a device
decides the probes of its node and no others (`EventSource.capabilities_track`), until it is
forgotten (`EventSource.capabilities_untrack`).
-/

namespace InputUdev

/-- The snapshot holds what the device reports. Codes above the known ranges are left out. -/
structure EventDevice.Reports (d : EventDevice) (s : Snapshot) : Prop where
  name : d.name = some s.name
  phys : ∀ phys, s.phys = some phys ↔ d.phys = some phys ∧ phys ≠ ""
  id : s.id = d.id
  keys : ∀ c, s.keys.contains c = true ↔ (∃ codes, d.keys = some codes ∧ c ∈ codes) ∧ c < 0x300
  relAxes : ∀ c, s.relAxes.contains c = true ↔
    (∃ codes, d.relAxes = some codes ∧ c ∈ codes) ∧ c < 0x10
  absAxes : ∀ c, s.absAxes.contains c = true ↔
    (∃ codes, d.absAxes = some codes ∧ c ∈ codes) ∧ c < 0x40

theorem contains_ofList_getD {codes : Option (List Nat)} {capacity c : Nat} :
    (CodeSet.ofList capacity (codes.getD [])).contains c = true ↔
      (∃ l, codes = some l ∧ c ∈ l) ∧ c < capacity := by
  rw [CodeSet.contains_ofList]
  cases codes <;> simp

namespace EventDevice

variable {d : EventDevice} {node : String} {snapshot : Snapshot} {e : ProbeError}

theorem reports_of_snapshot (h : d.snapshot node = .ok snapshot) : d.Reports snapshot := by
  rw [EventDevice.snapshot] at h
  split at h
  · cases h
  · next name hname =>
    cases h
    exact {
      name := hname
      phys := by simp [Snapshot.ofCodes, Option.filter_eq_some_iff]
      id := rfl
      keys := fun _ => contains_ofList_getD
      relAxes := fun _ => contains_ofList_getD
      absAxes := fun _ => contains_ofList_getD }

theorem snapshot_eq_error_iff :
    d.snapshot node = .error e ↔ d.name = none ∧ e = .missingName node := by
  rw [EventDevice.snapshot]
  cases d.name <;> simp [eq_comm]

end EventDevice

namespace EventSource

/-- The node leads to the device: it is tracked, or else opened. -/
inductive LeadsTo (s : EventSource) (node : String) : EventDevice → Prop
  | tracked : s.tracked.lookup (Path.key node) = some d → LeadsTo s node d
  | opened : s.tracked.lookup (Path.key node) = none → s.files.resolve node = .ok names →
    s.devices names = some d → LeadsTo s node d

variable {s : EventSource} {d : EventDevice} {node other : String}

theorem device_eq_ok_iff : s.device node = .ok d ↔ s.LeadsTo node d := by
  constructor
  · intro h
    rw [EventSource.device] at h
    split at h
    · next htracked =>
      cases h
      exact .tracked htracked
    · next htracked =>
      cases hnames : s.files.resolve node with
      | error cause =>
        rw [hnames] at h
        cases h
      | ok names =>
        rw [hnames] at h
        simp only [bind, Except.bind] at h
        split at h
        · next hdevice =>
          cases h
          exact .opened htracked hnames hdevice
        · cases h
  · intro h
    rw [EventSource.device]
    cases h with
    | tracked htracked => rw [htracked]
    | opened htracked hnames hdevice =>
      rw [htracked, hnames]
      simp only [bind, Except.bind, hdevice]

theorem capabilities_of_device_eq_ok (h : s.device node = .ok d) :
    s.capabilities node = d.snapshot node := by
  rw [capabilities, h]
  rfl

/-- A probe fails if the node leads to no device or to one without a name, and else it tells what
the device reports. -/
theorem capabilities_cases (s : EventSource) (node : String) :
    (∃ d snapshot, s.LeadsTo node d ∧ d.Reports snapshot ∧ s.capabilities node = .ok snapshot) ∨
    (∃ d, s.LeadsTo node d ∧ d.name = none ∧ s.capabilities node = .error (.missingName node)) ∨
    (∀ d, ¬ s.LeadsTo node d) ∧ ∃ cause, s.capabilities node = .error (.unreadable cause) := by
  cases hdevice : s.device node with
  | error cause =>
    have hnone : ∀ d, ¬ s.LeadsTo node d := by
      intro d hd
      rw [device_eq_ok_iff.mpr hd] at hdevice
      cases hdevice
    have hprobe : s.capabilities node = .error (.unreadable cause) := by
      rw [capabilities, hdevice]
      rfl
    exact .inr (.inr ⟨hnone, cause, hprobe⟩)
  | ok d =>
    have hleads := device_eq_ok_iff.mp hdevice
    rw [capabilities_of_device_eq_ok hdevice]
    cases hsnapshot : d.snapshot node with
    | ok snapshot =>
      exact .inl ⟨d, snapshot, hleads, EventDevice.reports_of_snapshot hsnapshot, rfl⟩
    | error e =>
      obtain ⟨hname, rfl⟩ := EventDevice.snapshot_eq_error_iff.mp hsnapshot
      exact .inr (.inl ⟨d, hleads, hname, rfl⟩)

/-! ## Tracking -/

/-- Probes depend on what is tracked for their node and on nothing else that is tracked. -/
theorem capabilities_congr {s' : EventSource} (hfiles : s'.files = s.files)
    (hdevices : s'.devices = s.devices)
    (h : s'.tracked.lookup (Path.key node) = s.tracked.lookup (Path.key node)) :
    s'.capabilities node = s.capabilities node := by
  rw [capabilities, capabilities, device, device, h, hfiles, hdevices]

theorem capabilities_track :
    (s.track node d).capabilities other =
      if Path.key other = Path.key node then d.snapshot other else s.capabilities other := by
  have hlookup := Association.lookup_upsert (Path.key node) d (Path.key other) s.tracked
  split
  · next hkey =>
    rw [if_pos hkey] at hlookup
    exact capabilities_of_device_eq_ok (device_eq_ok_iff.mpr (.tracked hlookup))
  · next hkey =>
    rw [if_neg hkey] at hlookup
    exact capabilities_congr rfl rfl hlookup

theorem capabilities_untrack :
    (s.untrack node).2.capabilities other =
      if Path.key other = Path.key node then { s with tracked := [] }.capabilities other
      else s.capabilities other := by
  have hlookup := Association.lookup_filter_ne (Path.key node) (Path.key other) s.tracked
  split
  · next hkey =>
    rw [if_pos hkey] at hlookup
    exact capabilities_congr rfl rfl hlookup
  · next hkey =>
    rw [if_neg hkey] at hlookup
    exact capabilities_congr rfl rfl hlookup

end EventSource
end InputUdev

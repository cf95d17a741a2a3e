import InputUdev.Proofs.Classifier.GivingUp
import InputUdev.Proofs.KernelTree.ParentInfo
import InputUdev.Proofs.Record.Marking

/-!
# What a dispatch makes of a device

The handler of a device finds its class and, it may be, a parent (`Classifier.Finds`). A dispatch
leaves the device alone or outfits it with what its handler finds, and does nothing else
(`Classifier.dispatch_cases`).
-/

namespace InputUdev

/-- The device with the marks of a class and, where one is found, a new parent. -/
def Device.outfit (d : Device) (c : DeviceClass) : Option ParentInfo → Device
  | none => d.mark c
  | some info => (d.mark c).attachParent info

namespace Classifier

/-- Whether the handler takes the parents of its devices from the kernel's tree. -/
def readsTree : Handler → Bool
  | .evdev | .kbdmux | .sysmouse => false
  | .keyboard | .mouse | .joystick | .touchpad | .touchscreen => true

/-- The handler finds the device to be of a class, and may find a parent for it. -/
inductive Finds (k : Classifier) (d : Device) : Handler → DeviceClass → Option ParentInfo → Prop
  | event : d.devnode = some node → k.capabilities node = .ok s → s.deviceClass ≠ .none →
    Finds k d .evdev s.deviceClass (some (eventParent k.virtualSysname s))
  | tree : readsTree h = true → knownClass? h = some c → k.tree.parentInfo d.sysname = .ok info →
    Finds k d h c (some info)
  | noTree : readsTree h = true → knownClass? h = some c →
    k.tree.parentInfo d.sysname = .error cause → Finds k d h c none
  | kbdmux : Finds k d .kbdmux .keyboard
    (some { sysname := d.sysname, name := "System keyboard multiplexor",
            product := some (ProductId.render ⟨Bus.virtual, 1, 1, 0⟩) })
  | sysmouse : Finds k d .sysmouse .mouse
    (some { sysname := d.sysname, name := "System mouse",
            product := some (ProductId.render ⟨Bus.virtual, 2, 1, 0⟩) })

variable {k : Classifier} {d : Device} {h : Handler} {c : DeviceClass} {parent? : Option ParentInfo}

theorem handle_of_readsTree (hreads : readsTree h = true) (hc : knownClass? h = some c) :
    k.handle h d = legacy k.tree c d := by
  cases h <;> cases hreads <;> cases hc <;> rfl

theorem handle_of_finds (hfinds : Finds k d h c parent?) :
    (k.handle h d).verdict = some c ∧ (k.handle h d).device = d.outfit c parent? := by
  cases hfinds with
  | event hnode hprobe hclass => exact event_of_recognised hnode hprobe hclass
  | tree hreads hc hinfo =>
    rw [← d.sysname_mark (c := c)] at hinfo
    rw [handle_of_readsTree hreads hc, legacy, synthesizeParent_of_ok hinfo]
    exact ⟨rfl, rfl⟩
  | noTree hreads hc hinfo =>
    rw [← d.sysname_mark (c := c)] at hinfo
    rw [handle_of_readsTree hreads hc, legacy, synthesizeParent_of_error hinfo]
    exact ⟨rfl, rfl⟩
  | kbdmux => exact ⟨rfl, rfl⟩
  | sysmouse => exact ⟨rfl, rfl⟩

/-! ## There is no other outcome -/

theorem exists_knownClass_of_readsTree (hreads : readsTree h = true) :
    ∃ c, knownClass? h = some c := by
  cases h <;> cases hreads <;> exact ⟨_, rfl⟩

theorem exists_finds_of_readsTree (hreads : readsTree h = true) :
    ∃ c parent?, Finds k d h c parent? := by
  obtain ⟨c, hc⟩ := exists_knownClass_of_readsTree hreads
  cases hinfo : k.tree.parentInfo d.sysname with
  | error cause => exact ⟨c, none, .noTree hreads hc hinfo⟩
  | ok info => exact ⟨c, some info, .tree hreads hc hinfo⟩

/-- Only the handler of event devices may find nothing. -/
theorem exists_finds_of_ne_evdev (hne : h ≠ .evdev) : ∃ c parent?, Finds k d h c parent? := by
  cases hreads : readsTree h with
  | true => exact exists_finds_of_readsTree hreads
  | false =>
    cases h with
    | evdev => exact absurd rfl hne
    | kbdmux => exact ⟨_, _, .kbdmux⟩
    | sysmouse => exact ⟨_, _, .sysmouse⟩
    | keyboard | mouse | joystick | touchpad | touchscreen => cases hreads

/-- A handler that finds nothing leaves the device alone. -/
theorem handle_cases (h : Handler) :
    ((k.handle h d).verdict = none ∧ (k.handle h d).device = d) ∨
      ∃ c parent?, Finds k d h c parent? := by
  by_cases hevdev : h = .evdev
  · subst hevdev
    rcases unrecognised_or_recognised k d with hprobe | ⟨node, s, hnode, hprobe, hclass⟩
    · exact .inl (event_of_unrecognised hprobe)
    · exact .inr ⟨_, _, .event hnode hprobe hclass⟩
  · exact .inr (exists_finds_of_ne_evdev hevdev)

theorem Finds.ne_none (hfinds : Finds k d h c parent?) : c ≠ .none := by
  cases hfinds with
  | event _ _ hclass => exact hclass
  | tree _ hc | noTree _ hc => exact ne_none_of_knownClass? hc
  | kbdmux | sysmouse => exact nofun

/-- The outcome of a dispatch whose handler finds something. -/
theorem dispatch_of_finds (hh : k.rules.handlerFor d.syspath = some h)
    (hfinds : Finds k d h c parent?) :
    (k.dispatch d).verdict = some c ∧ (k.dispatch d).device = d.outfit c parent? := by
  obtain ⟨hverdict, hdevice⟩ := dispatch_of_handlerFor_eq_some hh
  rw [hverdict, hdevice]
  exact handle_of_finds hfinds

/-- A dispatch leaves the device alone, or outfits it with what the handler finds. -/
theorem dispatch_cases (k : Classifier) (d : Device) :
    ((k.dispatch d).verdict = none ∧ (k.dispatch d).device = d) ∨
      ∃ h c parent?, k.rules.handlerFor d.syspath = some h ∧ Finds k d h c parent? ∧
        (k.dispatch d).verdict = some c ∧ (k.dispatch d).device = d.outfit c parent? := by
  cases hh : k.rules.handlerFor d.syspath with
  | none => exact .inl (dispatch_of_handlerFor_eq_none hh)
  | some h =>
    rcases handle_cases h with hnothing | ⟨c, parent?, hfinds⟩
    · obtain ⟨hverdict, hdevice⟩ := dispatch_of_handlerFor_eq_some hh
      rw [hverdict, hdevice]
      exact .inl hnothing
    · exact .inr ⟨h, c, parent?, rfl, hfinds, dispatch_of_finds hh hfinds⟩

end Classifier
end InputUdev

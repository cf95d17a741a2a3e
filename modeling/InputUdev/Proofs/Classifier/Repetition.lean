import InputUdev.Proofs.Classifier.Additivity
import InputUdev.Proofs.Classifier.Probing

/-!
# Repeated classification

A dispatch looks at the path, the name and the node of a device, and at nothing that the device
carries besides: it has one effect on all devices that agree on these (`Classifier.exists_effect`).
An effect leaves a device that it has been applied to as it is (`Effect.apply_apply`), and the
device still agrees with what it was, so that a second dispatch changes nothing
(`Classifier.dispatch_repeats`).
-/

namespace InputUdev

/-- The devices have the same path, name and node. -/
structure Device.Agrees (d d' : Device) : Prop where
  syspath : d'.syspath = d.syspath
  sysname : d'.sysname = d.sysname
  devnode : d'.devnode = d.devnode

/-- What a dispatch does to any device. -/
inductive Effect where
  /-- It leaves the device alone. -/
  | nothing
  /-- It marks the device, and attaches the parent if there is one. -/
  | outfit (c : DeviceClass) (parent? : Option ParentInfo)

namespace Effect

def verdict : Effect → Option DeviceClass
  | nothing => none
  | outfit c _ => some c

def apply (d : Device) : Effect → Device
  | nothing => d
  | outfit c parent? => d.outfit c parent?

end Effect

namespace Device

variable {d d' : Device} {c : DeviceClass} {info : ParentInfo}

theorem Agrees.rfl : d.Agrees d := ⟨Eq.refl _, Eq.refl _, Eq.refl _⟩

theorem Agrees.symm (h : d.Agrees d') : d'.Agrees d :=
  ⟨h.syspath.symm, h.sysname.symm, h.devnode.symm⟩

/-- The new parent takes the place of the old, and the marks are on the device itself. -/
theorem mark_attachParent : (d.attachParent info).mark c = (d.mark c).attachParent info := by
  rw [mark_eq, mark_eq]
  rfl

theorem attachParent_attachParent :
    (d.attachParent info).attachParent info = d.attachParent info := rfl

theorem outfit_outfit (parent? : Option ParentInfo) :
    (d.outfit c parent?).outfit c parent? = d.outfit c parent? := by
  cases parent? with
  | none => exact mark_mark
  | some info =>
    rw [outfit, outfit, mark_attachParent, mark_mark, attachParent_attachParent]

theorem agrees_apply (e : Effect) : d.Agrees (e.apply d) := by
  cases e with
  | nothing => exact .rfl
  | outfit c parent? =>
    have hmarked : d.Marked c (d.outfit c parent?) := marked_outfit parent?
    exact ⟨hmarked.syspath, hmarked.sysname, hmarked.devnode⟩

end Device

theorem Effect.apply_apply (e : Effect) (d : Device) : e.apply (e.apply d) = e.apply d := by
  cases e with
  | nothing => rfl
  | outfit c parent? => exact Device.outfit_outfit parent?

namespace Classifier

variable {k : Classifier} {d d' : Device} {h : Handler} {c : DeviceClass}
  {parent? : Option ParentInfo}

theorem Finds.congr (hagrees : d.Agrees d') (hfinds : Finds k d h c parent?) :
    Finds k d' h c parent? := by
  cases hfinds with
  | event hnode hprobe hclass => exact .event (hagrees.devnode.trans hnode) hprobe hclass
  | tree hreads hc hinfo => exact .tree hreads hc (hagrees.sysname.symm ▸ hinfo)
  | noTree hreads hc hinfo => exact .noTree hreads hc (hagrees.sysname.symm ▸ hinfo)
  | kbdmux =>
    rw [← hagrees.sysname]
    exact .kbdmux
  | sysmouse =>
    rw [← hagrees.sysname]
    exact .sysmouse

/-- A dispatch has one effect on all devices that agree. -/
theorem exists_effect (k : Classifier) (d : Device) :
    ∃ e : Effect, ∀ d', d.Agrees d' →
      (k.dispatch d').verdict = e.verdict ∧ (k.dispatch d').device = e.apply d' := by
  rcases k.dispatch_cases d with ⟨hnone, -⟩ | ⟨h, c, parent?, hh, hfinds, -, -⟩
  · refine ⟨.nothing, fun d' hagrees => ?_⟩
    rcases k.dispatch_cases d' with hnothing | ⟨h, c, parent?, hh, hfinds, -, -⟩
    · exact hnothing
    · -- what is found for the one would be found for the other
      rw [hagrees.syspath] at hh
      have hverdict := (dispatch_of_finds hh (hfinds.congr hagrees.symm)).1
      cases hnone.symm.trans hverdict
  · refine ⟨.outfit c parent?, fun d' hagrees => ?_⟩
    rw [← hagrees.syspath] at hh
    exact dispatch_of_finds hh (hfinds.congr hagrees)

theorem agrees_dispatch (k : Classifier) (d : Device) : d.Agrees (k.dispatch d).device := by
  obtain ⟨e, heffect⟩ := k.exists_effect d
  rw [(heffect d .rfl).2]
  exact Device.agrees_apply e

theorem probes_dispatch_congr (hagrees : d.Agrees d') :
    (k.dispatch d').probes = (k.dispatch d).probes := by
  rw [probes_dispatch, probes_dispatch, hagrees.syspath, hagrees.devnode]

/-- A second dispatch finds the same class and leaves the device as the first has left it. On all
devices with the same path, name and node a dispatch has the same effect, whatever else they carry,
and it probes the same nodes. -/
theorem dispatch_repeats (k : Classifier) (d : Device) :
    (k.dispatch (k.dispatch d).device).verdict = (k.dispatch d).verdict ∧
    (k.dispatch (k.dispatch d).device).device = (k.dispatch d).device ∧
    ∃ e : Effect, ∀ d', d.Agrees d' →
      (k.dispatch d').verdict = e.verdict ∧ (k.dispatch d').device = e.apply d' ∧
        (k.dispatch d').probes = (k.dispatch d).probes := by
  obtain ⟨e, heffect⟩ := k.exists_effect d
  obtain ⟨hverdict, hdevice⟩ := heffect d .rfl
  -- the dispatched device agrees with the one it was, and so meets the same effect again
  obtain ⟨hverdict', hdevice'⟩ := heffect _ (k.agrees_dispatch d)
  refine ⟨hverdict'.trans hverdict.symm, ?_, e, fun d' hagrees => ?_⟩
  · rw [hdevice', hdevice, e.apply_apply]
  · exact ⟨(heffect d' hagrees).1, (heffect d' hagrees).2, probes_dispatch_congr hagrees⟩

end Classifier
end InputUdev

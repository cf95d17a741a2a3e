import InputUdev.Classifier

/-!
# The parent that the kernel's tree describes

`KernelTree.Describes` says when the tree describes a device: its system name has a unit number, and
the tree has a description and a PNP blob for its driver and unit. Just then there is a parent
(`KernelTree.Describes.parentInfo`, `KernelTree.exists_describes`), whose identity is told by the
keys of the blob (`LegacyId.resolve_of_product`, `LegacyId.resolve_of_device`).
-/

namespace InputUdev

namespace KernelTree

/-- The tree has the description and the PNP blob for the device of a system name, which is that of
a driver and a unit number. -/
structure Describes (t : KernelTree) (sysname driver unit desc blob : String) : Prop where
  sysname_eq : splitUnit sysname = some (driver, unit)
  desc_eq : t.value driver unit .description = some desc
  blob_eq : t.value driver unit .pnpInfo = some blob

variable {t : KernelTree} {sysname driver unit desc blob : String}

/-- The identity of a device from its driver, its blob and the name of its parent in the tree. -/
def identity (t : KernelTree) (driver unit blob : String) : ProductId :=
  (LegacyId.resolve driver (.ofBlob blob) (t.value driver unit .parent)).productId

theorem Describes.parentInfo (h : t.Describes sysname driver unit desc blob) :
    t.parentInfo sysname = .ok {
      sysname, name := stripName desc, product := some (t.identity driver unit blob).render,
      pnpId := (PnpInfo.ofBlob blob).pnpId } := by
  rw [KernelTree.parentInfo, h.sysname_eq]
  simp only [h.desc_eq, h.blob_eq]
  rfl

theorem exists_describes {info : ParentInfo} (h : t.parentInfo sysname = .ok info) :
    ∃ driver unit desc blob, t.Describes sysname driver unit desc blob := by
  rw [KernelTree.parentInfo] at h
  cases hsysname : splitUnit sysname with
  | none => simp [hsysname] at h
  | some p =>
    obtain ⟨driver, unit⟩ := p
    cases hdesc : t.value driver unit .description with
    | none => simp [hsysname, hdesc] at h
    | some desc =>
      cases hblob : t.value driver unit .pnpInfo with
      | none => simp [hsysname, hdesc, hblob] at h
      | some blob => exact ⟨driver, unit, desc, blob, hsysname, hdesc, hblob⟩

end KernelTree

namespace LegacyId

variable {driver : String} {pnp : PnpInfo} {parent : Option String}

theorem resolve_of_product {vendor product : String} (hvendor : pnp.vendor = some vendor)
    (hproduct : pnp.product = some product) :
    resolve driver pnp parent = ⟨Bus.usb, CInteger.ofText vendor, CInteger.ofText product⟩ := by
  simp only [resolve, hvendor, hproduct]

theorem resolve_of_device {vendor device : String} (hvendor : pnp.vendor = some vendor)
    (hproduct : pnp.product = none) (hdevice : pnp.device = some device) :
    resolve driver pnp parent = ⟨Bus.pci, CInteger.ofText vendor, CInteger.ofText device⟩ := by
  simp only [resolve, hvendor, hproduct, hdevice]

end LegacyId

namespace Classifier

variable {tree : KernelTree} {d : Device}

theorem synthesizeParent_of_ok {info : ParentInfo} (h : tree.parentInfo d.sysname = .ok info) :
    synthesizeParent tree d =
      (true, { device := d.attachParent info, messages := [info.message d.syspath] }) := by
  unfold synthesizeParent
  rw [h]

theorem synthesizeParent_of_error {cause : NoParent}
    (h : tree.parentInfo d.sysname = .error cause) :
    synthesizeParent tree d =
      (false, { device := d, messages := cause.messages d.sysname }) := by
  unfold synthesizeParent
  rw [h]

end Classifier

end InputUdev

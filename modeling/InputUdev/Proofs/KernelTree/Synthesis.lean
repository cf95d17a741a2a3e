import InputUdev.Proofs.KernelTree.SpelledIdentity
import InputUdev.Proofs.KernelTree.Unit

/-!
# Parents from the attributes of a unit

The kernel's tree gives a device a parent exactly if the system name ends in a unit whose
description and PNP blob it has. `Identifies` says which identity the keys of the blob, the driver
and the name of the parent make for the device; there is one in every case (`identifies_iff`). Main
statement: a parent with this identity is all that the device gets, and the attributes of its unit
are all that decides it (`Classifier.synthesizeParent_outcome`).
-/

namespace InputUdev
open Pnp

/-! ## Identities -/

/-- The blob has a vendor, and a value for the other key. -/
def Pnp.HasVendorAnd (blob key : String) : Prop := HasKey blob "vendor" ∧ HasKey blob key

/-- The numbers of a driver's device behind the keyboard controller. -/
inductive ControllerNumbers : String → (vendor product : UInt32) → Prop
  | keyboard : ControllerNumbers "atkbd" 1 1
  | mouse : ControllerNumbers "psm" 2 1
  | other : driver ≠ "atkbd" → driver ≠ "psm" → ControllerNumbers driver 0 0

/-- The identity of a driver's device from its blob and the name of its parent in the tree. A vendor
with a product comes first, then a vendor with a device, and the parent's name last. -/
inductive Identifies (driver blob : String) (parent : Option String) : ProductId → Prop
  | usb : HasValue blob "vendor" vendor → HasValue blob "product" product →
    Identifies driver blob parent ⟨3, CInteger.ofText vendor, CInteger.ofText product, 0⟩
  | pci : ¬ HasVendorAnd blob "product" →
    HasValue blob "vendor" vendor → HasValue blob "device" device →
    Identifies driver blob parent ⟨1, CInteger.ofText vendor, CInteger.ofText device, 0⟩
  | controller : ¬ HasVendorAnd blob "product" → ¬ HasVendorAnd blob "device" →
    parent = some "atkbdc0" → ControllerNumbers driver vendor product →
    Identifies driver blob parent ⟨0x11, vendor, product, 0⟩
  | virtual : ¬ HasVendorAnd blob "product" → ¬ HasVendorAnd blob "device" →
    parent ≠ some "atkbdc0" → Identifies driver blob parent ⟨6, 0, 0, 0⟩

theorem exists_controllerNumbers (driver : String) :
    ∃ vendor product, ControllerNumbers driver vendor product := by
  by_cases hkeyboard : driver = "atkbd"
  · subst hkeyboard
    exact ⟨_, _, .keyboard⟩
  · by_cases hmouse : driver = "psm"
    · subst hmouse
      exact ⟨_, _, .mouse⟩
    · exact ⟨_, _, .other hkeyboard hmouse⟩

theorem ControllerNumbers.ofController_eq {driver : String} {vendor product : UInt32}
    (h : ControllerNumbers driver vendor product) :
    LegacyId.ofController driver = ⟨Bus.i8042, vendor, product⟩ := by
  cases h with
  | keyboard | mouse => rfl
  | other hkeyboard hmouse => rw [LegacyId.ofController, if_neg hkeyboard, if_neg hmouse]

theorem LegacyId.resolve_of_parent {driver : String} {pnp : PnpInfo} {parent : Option String}
    (hproduct : pnp.vendor = none ∨ pnp.product = none)
    (hdevice : pnp.vendor = none ∨ pnp.device = none) :
    resolve driver pnp parent =
      if parent = some "atkbdc0" then ofController driver else ⟨Bus.virtual, 0, 0⟩ := by
  obtain ⟨_ | vendor, _ | product, _ | device, pnpId⟩ := pnp
  all_goals first | rfl | simp at hproduct hdevice

/-- Without a vendor and the other key, one of the two has no value. -/
theorem Pnp.value?_eq_none_or {blob key : String} (hkey : '=' ∉ key.toList)
    (h : ¬ HasVendorAnd blob key) : value? blob "vendor" = none ∨ value? blob key = none := by
  rw [← not_hasKey_iff (by decide), ← not_hasKey_iff hkey]
  exact Classical.not_and_iff_not_or_not.mp h

section
variable {driver blob : String} {parent : Option String} {id : ProductId}

theorem exists_identifies (driver blob : String) (parent : Option String) :
    ∃ id, Identifies driver blob parent id := by
  by_cases hproduct : HasVendorAnd blob "product"
  · obtain ⟨⟨vendor, hvendor⟩, product, hproduct⟩ := hproduct
    exact ⟨_, .usb hvendor hproduct⟩
  · by_cases hdevice : HasVendorAnd blob "device"
    · obtain ⟨⟨vendor, hvendor⟩, device, hdevice⟩ := hdevice
      exact ⟨_, .pci hproduct hvendor hdevice⟩
    · by_cases hparent : parent = some "atkbdc0"
      · obtain ⟨vendor, product, hnumbers⟩ := exists_controllerNumbers driver
        exact ⟨_, .controller hproduct hdevice hparent hnumbers⟩
      · exact ⟨_, .virtual hproduct hdevice hparent⟩

theorem Identifies.eq_resolve (h : Identifies driver blob parent id) :
    id = (LegacyId.resolve driver (.ofBlob blob) parent).productId := by
  cases h with
  | usb hvendor hproduct =>
    have hvendor := (hasValue_iff (by decide)).mp hvendor
    have hproduct := (hasValue_iff (by decide)).mp hproduct
    rw [LegacyId.resolve_of_product hvendor hproduct]
    rfl
  | pci hnot hvendor hdevice =>
    have hvendor := (hasValue_iff (by decide)).mp hvendor
    have hdevice := (hasValue_iff (by decide)).mp hdevice
    have hproduct := (value?_eq_none_or (by decide) hnot).resolve_left (by simp [hvendor])
    rw [LegacyId.resolve_of_device hvendor hproduct hdevice]
    rfl
  | controller hproduct hdevice hparent hnumbers =>
    have hproduct := value?_eq_none_or (by decide) hproduct
    have hdevice := value?_eq_none_or (by decide) hdevice
    rw [LegacyId.resolve_of_parent hproduct hdevice, if_pos hparent, hnumbers.ofController_eq]
    rfl
  | virtual hproduct hdevice hparent =>
    have hproduct := value?_eq_none_or (by decide) hproduct
    have hdevice := value?_eq_none_or (by decide) hdevice
    rw [LegacyId.resolve_of_parent hproduct hdevice, if_neg hparent]
    rfl

theorem identifies_iff :
    Identifies driver blob parent id ↔
      id = (LegacyId.resolve driver (.ofBlob blob) parent).productId := by
  refine ⟨Identifies.eq_resolve, ?_⟩
  obtain ⟨id', h⟩ := exists_identifies driver blob parent
  rintro rfl
  exact h.eq_resolve ▸ h

end

/-! ## Attributes -/

namespace KernelTree

variable {t t' : KernelTree} {sysname : String}

/-- The trees have the same attributes for the unit that the system name ends in. -/
def AgreeOn (t t' : KernelTree) (sysname : String) : Prop :=
  ∀ driver unit, EndsInUnit sysname driver unit → ∀ attr,
    t.value driver unit attr = t'.value driver unit attr

theorem AgreeOn.parentInfo_eq (h : t.AgreeOn t' sysname) :
    t.parentInfo sysname = t'.parentInfo sysname := by
  rw [parentInfo, parentInfo]
  cases hsplit : splitUnit sysname with
  | none => rfl
  | some p => simp only [h p.1 p.2 (endsInUnit_of_splitUnit hsplit)]

end KernelTree

/-! ## Parents -/

namespace Classifier

variable {t t' : KernelTree} {d : Device} {driver unit desc blob : String}

/-- The device after it has got a parent with the identity, and nothing else. -/
structure Adopts (d : Device) (id : ProductId) (d' : Device) : Prop where
  record_eq : d'.toRecord = d.toRecord
  parent : ∃ p, d'.parent? = some p ∧ p.property? "PRODUCT" = some id.render

theorem adopts_identity (h : t.Describes d.sysname driver unit desc blob) :
    Adopts d (t.identity driver unit blob) (synthesizeParent t d).2.device where
  record_eq := by
    rw [synthesizeParent_of_ok h.parentInfo]
    rfl
  parent := (attachesProduct_identity h).2

theorem synthesizeParent_eq_true_iff :
    (synthesizeParent t d).1 = true ↔
      ∃ driver unit desc blob, t.Describes d.sysname driver unit desc blob := by
  constructor
  · intro h
    cases hinfo : t.parentInfo d.sysname with
    | ok info => exact KernelTree.exists_describes hinfo
    | error cause =>
      rw [synthesizeParent_of_error hinfo] at h
      cases h
  · rintro ⟨driver, unit, desc, blob, h⟩
    rw [synthesizeParent_of_ok h.parentInfo]

theorem device_of_synthesizeParent_eq_false (h : (synthesizeParent t d).1 = false) :
    (synthesizeParent t d).2.device = d := by
  cases hinfo : t.parentInfo d.sysname with
  | ok info =>
    rw [synthesizeParent_of_ok hinfo] at h
    cases h
  | error cause => rw [synthesizeParent_of_error hinfo]

theorem synthesizeParent_congr (h : t.AgreeOn t' d.sysname) :
    synthesizeParent t d = synthesizeParent t' d := by
  rw [synthesizeParent, synthesizeParent, h.parentInfo_eq]

/-- A device gets a parent exactly if its system name ends in a digit and the tree has the
description and the blob of its unit. The parent's identity, which is all that the device gets, is
the one that these make with the driver and the name of the tree's parent, and no other attribute
of the tree matters. -/
theorem synthesizeParent_outcome (t : KernelTree) (d : Device) :
    ((∃ driver unit, EndsInUnit d.sysname driver unit) ↔
      ∃ c ∈ d.sysname.toList.getLast?, c.isDigit = true) ∧
    ((synthesizeParent t d).1 = true ↔
      ∃ driver unit, EndsInUnit d.sysname driver unit ∧
        (t.value driver unit .description).isSome = true ∧
        (t.value driver unit .pnpInfo).isSome = true) ∧
    ((synthesizeParent t d).1 = false → (synthesizeParent t d).2.device = d) ∧
    (∀ driver unit blob, (synthesizeParent t d).1 = true → EndsInUnit d.sysname driver unit →
      t.value driver unit .pnpInfo = some blob →
      ∃ id, (∀ id', Identifies driver blob (t.value driver unit .parent) id' ↔ id' = id) ∧
        Adopts d id (synthesizeParent t d).2.device) ∧
    (∀ value, ¬ CInteger.BeginsNumber value.toList → CInteger.ofText value = 0) ∧
    ∀ t', t.AgreeOn t' d.sysname → synthesizeParent t d = synthesizeParent t' d := by
  refine ⟨exists_endsInUnit_iff, ?_, device_of_synthesizeParent_eq_false, ?_,
    fun value => CInteger.ofChars_of_not_beginsNumber, fun t' => synthesizeParent_congr⟩
  · rw [synthesizeParent_eq_true_iff]
    simp only [Option.isSome_iff_exists, ← splitUnit_eq_some_iff]
    constructor
    · rintro ⟨driver, unit, desc, blob, h⟩
      exact ⟨driver, unit, h.sysname_eq, ⟨desc, h.desc_eq⟩, ⟨blob, h.blob_eq⟩⟩
    · rintro ⟨driver, unit, hunit, ⟨desc, hdesc⟩, ⟨blob, hblob⟩⟩
      exact ⟨driver, unit, desc, blob, hunit, hdesc, hblob⟩
  · intro driver unit blob htrue hunit hblob
    refine ⟨t.identity driver unit blob, fun id' => identifies_iff, ?_⟩
    obtain ⟨driver', unit', desc, blob', h⟩ := synthesizeParent_eq_true_iff.mp htrue
    cases h.sysname_eq.symm.trans hunit.splitUnit_eq
    cases h.blob_eq.symm.trans hblob
    exact adopts_identity h

end Classifier
end InputUdev

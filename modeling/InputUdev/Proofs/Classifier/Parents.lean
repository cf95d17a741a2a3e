import InputUdev.Proofs.Classifier.Outcome
import InputUdev.Proofs.Parent.Contents
import InputUdev.Proofs.Pnp.Tokens
import InputUdev.Proofs.ProductId.Hexadecimal

/-!
# The parents that a classification attaches

A handler has a parent to attach when it has probed its device, when the kernel's tree describes the
device, or when the device is one of fixed identity (`Classifier.Originates`). Whatever it comes
from, the parent has the one form of `Device.Presents`. Main statement: a dispatch attaches the
parent that its handler has, and without one the device keeps the parent it had
(`Classifier.dispatch_parents`).
-/

namespace InputUdev

/-- What a synthetic parent shows. -/
structure Origin where
  syspath : String
  name : String
  identity : ProductId
  /-- The device has a hardware id. -/
  hasId : Bool

/-- The device shows the path, the name and the identity, the last as this text, and has nothing
beside them. -/
structure Device.Presents (q : Device) (o : Origin) (product : String) : Prop where
  syspath : q.syspath = o.syspath
  sysname : q.sysname = Path.sysname o.syspath
  action : q.action = .none
  devnode : q.devnode = none
  subsystem : q.subsystem = ""
  parent : q.parent? = none
  properties : q.properties.toList = [("NAME", o.name), ("PRODUCT", product)]
  sysattrs : q.sysattrs.toList = ("name", o.name) :: if o.hasId then [("id", product)] else []
  no_comma : ',' ∉ o.name.toList
  product_isText : o.identity.IsText product

namespace Classifier

/-- The path of the parent of an event device: the physical location, or the virtual name where the
device reports none. -/
inductive Location (virtualSysname : String) (s : Snapshot) : String → Prop
  | physical : s.phys = some phys → phys ≠ "" → Location virtualSysname s phys
  | virtual : s.phys = none ∨ s.phys = some "" → Location virtualSysname s virtualSysname

/-- The blob names a hardware id other than `none`: what the first token for it says. -/
def NamesId (blob : String) : Prop :=
  ∃ id : String, Pnp.FirstGives "_HID".toList id.toList (Pnp.tokens blob.toList) ∧ id ≠ "none"

/-- The handler has a parent to attach to the device. -/
inductive Originates (k : Classifier) (d : Device) : Handler → Origin → Prop
  | event : d.devnode = some node → k.capabilities node = .ok s → s.deviceClass ≠ .none →
    Location k.virtualSysname s path → StripsTo s.name name →
    Originates k d .evdev ⟨path, name, s.id.productId, false⟩
  | tree : readsTree h = true → k.tree.Describes d.sysname driver unit desc blob →
    StripsTo desc name → (hasId = true ↔ NamesId blob) →
    Originates k d h ⟨d.sysname, name, k.tree.identity driver unit blob, hasId⟩
  | kbdmux : Originates k d .kbdmux
    ⟨d.sysname, "System keyboard multiplexor", ⟨6, 1, 1, 0⟩, false⟩
  | sysmouse : Originates k d .sysmouse ⟨d.sysname, "System mouse", ⟨6, 2, 1, 0⟩, false⟩

variable {k : Classifier} {d : Device} {h : Handler} {o : Origin}

theorem location_iff {virtualSysname path : String} {s : Snapshot} :
    Location virtualSysname s path ↔ path = (eventParent virtualSysname s).sysname := by
  constructor
  · intro h
    cases h with
    | physical hphys hne => simp [eventParent, hphys, Option.filter_some, hne]
    | virtual hphys =>
      rcases hphys with hphys | hphys <;> simp [eventParent, hphys, Option.filter_some]
  · rintro rfl
    cases hphys : s.phys with
    | none => simpa [eventParent, hphys] using Location.virtual (.inl hphys)
    | some phys =>
      by_cases hne : phys = ""
      · subst hne
        simpa [eventParent, hphys, Option.filter_some] using Location.virtual (.inr hphys)
      · simpa [eventParent, hphys, Option.filter_some, hne] using Location.physical hphys hne

theorem isSome_pnpId_iff {blob : String} :
    (PnpInfo.ofBlob blob).pnpId.isSome = true ↔ NamesId blob := by
  have hvalue (id : String) := @Pnp.value?_eq_some_iff _ blob "_HID" id (by decide)
    (Pnp.joins_tokens blob.toList)
  simp only [NamesId, ← hvalue, PnpInfo.ofBlob, Option.isSome_iff_exists,
    Option.filter_eq_some_iff, bne_iff_ne]

/-! ## From the origin to the parent -/

/-- The parent information is what the origin says. -/
structure Makes (o : Origin) (info : ParentInfo) : Prop where
  sysname : info.sysname = o.syspath
  name : info.name = o.name
  product : info.product = some o.identity.render
  hasId : info.pnpId.isSome = o.hasId
  no_comma : ',' ∉ o.name.toList

theorem Makes.presents {info : ParentInfo} (h : Makes o info) :
    info.device.Presents o o.identity.render := by
  obtain ⟨hsysname, hname, hproduct, hid, hcomma⟩ := h
  have hdevice := info.device_eq
  rw [hsysname] at hdevice
  exact {
    syspath := congrArg (·.syspath) hdevice
    sysname := congrArg (·.sysname) hdevice
    action := congrArg (·.action) hdevice
    devnode := congrArg (·.devnode) hdevice
    subsystem := congrArg (·.subsystem) hdevice
    parent := congrArg (·.parent?) hdevice
    properties := by
      rw [ParentInfo.toList_properties_device, hname, hproduct]
      rfl
    sysattrs := by
      rw [ParentInfo.toList_sysattrs_device, hname, hproduct, hid]
      rfl
    no_comma := hcomma
    product_isText := ProductId.isText_render _ }

theorem Originates.exists_finds (ho : Originates k d h o) :
    ∃ c info, Finds k d h c (some info) ∧ Makes o info := by
  cases ho with
  | event hnode hprobe hclass hpath hname =>
    exact ⟨_, _, .event hnode hprobe hclass, (location_iff.mp hpath).symm,
      (stripsTo_iff.mp hname).symm, rfl, rfl, hname.no_comma⟩
  | tree hreads hdescribes hname hid =>
    obtain ⟨c, hc⟩ := exists_knownClass_of_readsTree hreads
    exact ⟨_, _, .tree hreads hc hdescribes.parentInfo, rfl, (stripsTo_iff.mp hname).symm, rfl,
      Bool.eq_iff_iff.mpr (isSome_pnpId_iff.trans hid.symm), hname.no_comma⟩
  | kbdmux =>
    have hcomma : ',' ∉ "System keyboard multiplexor".toList := by decide
    exact ⟨_, _, .kbdmux, rfl, rfl, rfl, rfl, hcomma⟩
  | sysmouse =>
    have hcomma : ',' ∉ "System mouse".toList := by decide
    exact ⟨_, _, .sysmouse, rfl, rfl, rfl, rfl, hcomma⟩

theorem exists_originates {c : DeviceClass} {info : ParentInfo} {parent? : Option ParentInfo}
    (hfinds : Finds k d h c parent?) (hinfo : parent? = some info) :
    ∃ o, Originates k d h o := by
  cases hfinds with
  | event hnode hprobe hclass =>
    exact ⟨_, .event hnode hprobe hclass (location_iff.mpr rfl) (stripsTo_stripName _)⟩
  | tree hreads hc hinfo' =>
    obtain ⟨driver, unit, desc, blob, hdescribes⟩ := KernelTree.exists_describes hinfo'
    exact ⟨_, .tree hreads hdescribes (stripsTo_stripName desc) isSome_pnpId_iff⟩
  | noTree => cases hinfo
  | kbdmux => exact ⟨_, .kbdmux⟩
  | sysmouse => exact ⟨_, .sysmouse⟩

/-- A handler that finds a class has a parent for the device, unless it relies on the kernel's tree
and the tree has none. -/
theorem Finds.isSome_iff {c : DeviceClass} {parent? : Option ParentInfo}
    (hfinds : Finds k d h c parent?) :
    parent?.isSome = true ↔ (readsTree h = true → (synthesizeParent k.tree d).1 = true) := by
  cases hfinds with
  | event | kbdmux | sysmouse => simp [readsTree]
  | tree hreads _ hinfo => simp [synthesizeParent_of_ok hinfo]
  | noTree hreads _ hinfo => simp [synthesizeParent_of_error hinfo, hreads]

/-! ## The dispatch -/

theorem parent?_mark (d : Device) (c : DeviceClass) : (d.mark c).parent? = d.parent? := by
  rw [Device.parent?, Device.parent?, Device.ancestors_mark]

/-- A dispatch attaches the parent that its handler has, in the form common to all. Without one the
device keeps the parent it had. A handler that finds a class has a parent, unless it relies on the
kernel's tree and the tree has none. -/
theorem dispatch_parents (k : Classifier) (d : Device) :
    (∀ h o, k.rules.handlerFor d.syspath = some h → Originates k d h o →
      ∃ q product, (k.dispatch d).device.parent? = some q ∧ q.Presents o product) ∧
    ((∀ h o, k.rules.handlerFor d.syspath = some h → ¬ Originates k d h o) →
      (k.dispatch d).device.parent? = d.parent?) ∧
    (∀ h c, k.rules.handlerFor d.syspath = some h → (k.dispatch d).verdict = some c →
      ((∃ o, Originates k d h o) ↔
        (readsTree h = true → (synthesizeParent k.tree d).1 = true))) := by
  refine ⟨fun h o hh ho => ?_, fun hnone => ?_, fun h c hh hc => ?_⟩
  · obtain ⟨c, info, hfinds, hmakes⟩ := ho.exists_finds
    refine ⟨info.device, o.identity.render, ?_, hmakes.presents⟩
    rw [(dispatch_of_finds hh hfinds).2]
    exact Device.parent?_setParent ..
  · rcases k.dispatch_cases d with ⟨-, hdevice⟩ | ⟨h, c, parent?, hh, hfinds, -, hdevice⟩
    · rw [hdevice]
    · rw [hdevice]
      cases parent? with
      | none => exact parent?_mark d c
      | some info =>
        -- whatever a handler finds has an origin
        obtain ⟨o, ho⟩ := exists_originates hfinds rfl
        exact absurd ho (hnone h o hh)
  · rcases k.dispatch_cases d with ⟨hnone, -⟩ | ⟨h', c', parent?, hh', hfinds, -, -⟩
    · rw [hnone] at hc
      cases hc
    · rw [hh'] at hh
      cases hh
      constructor
      · rintro ⟨o, ho⟩
        obtain ⟨_, _, hfinds', -⟩ := ho.exists_finds
        exact hfinds'.isSome_iff.mp rfl
      · intro hreads
        -- the class says nothing about the tree, but what was found does
        obtain ⟨info, rfl⟩ := Option.isSome_iff_exists.mp (hfinds.isSome_iff.mpr hreads)
        exact exists_originates hfinds rfl

end Classifier
end InputUdev

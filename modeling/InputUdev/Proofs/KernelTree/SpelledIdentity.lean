import InputUdev.Proofs.CInteger.Spelling
import InputUdev.Proofs.KernelTree.ParentInfo
import InputUdev.Proofs.Parent.Contents
import InputUdev.Proofs.Pnp.Tokens
import InputUdev.Proofs.ProductId.Hexadecimal

/-!
# Identities spelled out in a blob

The numbers that identify a legacy device are tokens of its PNP blob, in any of C's notations and in
any order. Main statement: they reach the parent of the device in hexadecimal, whatever the driver
and whatever the tree calls the device's parent (`Classifier.synthesizeParent_of_spelled`).
-/

namespace InputUdev

theorem LegacyId.render_productId (id : LegacyId) :
    id.productId.render = Text.hex id.bus.toNat ++ "/" ++ Text.hex id.vendor.toNat ++ "/" ++
      Text.hex id.product.toNat ++ "/0" := by
  have hversion : Text.hex (0 : UInt32).toNat = "0" := Text.hex_of_lt (by decide)
  have hend : "/0" = "/" ++ "0" := rfl
  rw [ProductId.render_eq, LegacyId.productId, hversion, hend, ← String.append_assoc]

namespace Classifier

/-- The kernel's tree gives the device a parent with this product text. -/
def AttachesProduct (tree : KernelTree) (d : Device) (product : String) : Prop :=
  (synthesizeParent tree d).1 = true ∧ ∃ parent,
    (synthesizeParent tree d).2.device.parent? = some parent ∧
      parent.property? "PRODUCT" = some product

variable {tree : KernelTree} {d : Device} {driver unit desc blob : String}

theorem attachesProduct_identity (h : tree.Describes d.sysname driver unit desc blob) :
    AttachesProduct tree d (tree.identity driver unit blob).render := by
  rw [AttachesProduct, synthesizeParent_of_ok h.parentInfo]
  exact ⟨rfl, _, Device.parent?_setParent .., ParentInfo.property?_device_product _⟩

variable {ts : List (List Char)} {vendor number : String} {v p : UInt32}

/-- The spelled numbers of a device reach its parent: vendor and product as those of a USB device,
and without a product, vendor and device as those of a PCI device. -/
theorem synthesizeParent_of_spelled (h : tree.Describes d.sysname driver unit desc blob)
    (hts : Pnp.Joins ts blob.toList) (hv : CInteger.Spells v.toNat vendor.toList)
    (hp : CInteger.Spells p.toNat number.toList)
    (hvendor : Pnp.OnlyGives "vendor".toList vendor.toList ts) :
    Text.IsHex v.toNat (Text.hex v.toNat) ∧ Text.IsHex p.toNat (Text.hex p.toNat) ∧
    (Pnp.OnlyGives "product".toList number.toList ts →
      AttachesProduct tree d ("3/" ++ Text.hex v.toNat ++ "/" ++ Text.hex p.toNat ++ "/0")) ∧
    ((∀ token ∈ ts, ∀ value, ¬ Pnp.Gives "product".toList value token) →
      Pnp.OnlyGives "device".toList number.toList ts →
      AttachesProduct tree d ("1/" ++ Text.hex v.toNat ++ "/" ++ Text.hex p.toNat ++ "/0")) := by
  have hvendor : (PnpInfo.ofBlob blob).vendor = some vendor := hvendor.value? (by decide) hts
  have hattach := attachesProduct_identity h
  rw [KernelTree.identity] at hattach
  refine ⟨Text.isHex_hex _, Text.isHex_hex _, fun hproduct => ?_, fun hnone hdevice => ?_⟩
  · have hproduct : (PnpInfo.ofBlob blob).product = some number := hproduct.value? (by decide) hts
    have hbus : Text.hex Bus.usb.toNat = "3" := Text.hex_of_lt (by decide)
    rw [LegacyId.resolve_of_product hvendor hproduct, LegacyId.render_productId, CInteger.ofText,
      CInteger.ofText, CInteger.ofChars_of_spells hv, CInteger.ofChars_of_spells hp,
      hbus] at hattach
    exact hattach
  · have hproduct : (PnpInfo.ofBlob blob).product = none :=
      (Pnp.value?_eq_none_iff (by decide) hts).mpr hnone
    have hdevice : (PnpInfo.ofBlob blob).device = some number := hdevice.value? (by decide) hts
    have hbus : Text.hex Bus.pci.toNat = "1" := Text.hex_of_lt (by decide)
    rw [LegacyId.resolve_of_device hvendor hproduct hdevice, LegacyId.render_productId,
      CInteger.ofText, CInteger.ofText, CInteger.ofChars_of_spells hv,
      CInteger.ofChars_of_spells hp, hbus] at hattach
    exact hattach

/-- A mouse behind the keyboard controller with numbers in octal and in hexadecimal digits. -/
def sampleTree : KernelTree :=
  (((KernelTree.empty.insert "psm" "0" .description "PS/2 Mouse").insert "psm" "0" .pnpInfo
    "product=+0X00C077,\tvendor=02155").insert "psm" "0" .parent "atkbdc0")

def sampleTokens : List (List Char) := ["product=+0X00C077".toList, "vendor=02155".toList]

theorem synthesizeParent_of_octal_and_hex :
    sampleTree.Describes "psm0" "psm" "0" "PS/2 Mouse" "product=+0X00C077,\tvendor=02155" ∧
    Pnp.Joins sampleTokens "product=+0X00C077,\tvendor=02155".toList ∧
    CInteger.Spells (0x46d : UInt32).toNat "02155".toList ∧
    CInteger.Spells (0xc077 : UInt32).toNat "+0X00C077".toList ∧
    Pnp.OnlyGives "vendor".toList "02155".toList sampleTokens ∧
    Pnp.OnlyGives "product".toList "+0X00C077".toList sampleTokens ∧
    AttachesProduct sampleTree (.bare "/dev/psm0" .add) "3/46d/c077/0" := by
  have hdescribes : sampleTree.Describes "psm0" "psm" "0" "PS/2 Mouse"
      "product=+0X00C077,\tvendor=02155" := ⟨by decide, by decide, by decide⟩
  have hplain (token : List Char) (h : token.any Pnp.isSeparator = false) :
      ∀ c ∈ token, Pnp.isSeparator c = false := by simpa using h
  have hjoins : Pnp.Joins sampleTokens "product=+0X00C077,\tvendor=02155".toList :=
    @Pnp.Joins.cons _ ",\t".toList _ _ (hplain _ rfl) (List.cons_ne_nil _ _)
      (List.all_eq_true.mp rfl) (.last (hplain _ rfl))
  have hv : CInteger.Spells (0x46d : UInt32).toNat "02155".toList :=
    .plain (@CInteger.Numeral.octal _ "2155".toList (List.all_eq_true.mp rfl) rfl)
  have hp : CInteger.Spells (0xc077 : UInt32).toNat "+0X00C077".toList :=
    .signed (@CInteger.Numeral.hexadecimal _ 'X' "00C077".toList (.inr rfl) (List.cons_ne_nil _ _)
      (List.all_eq_true.mp rfl) rfl)
  have hvendor : Pnp.OnlyGives "vendor".toList "02155".toList sampleTokens := by
    refine ⟨⟨_, List.mem_cons_of_mem _ List.mem_cons_self, rfl⟩, ?_⟩
    intro token hmem other hgives
    rcases List.mem_cons.mp hmem with rfl | hmem
    · simp [Pnp.Gives] at hgives
    · rw [List.mem_singleton.mp hmem] at hgives
      simpa [Pnp.Gives] using Eq.symm hgives
  have hproduct : Pnp.OnlyGives "product".toList "+0X00C077".toList sampleTokens := by
    refine ⟨⟨_, List.mem_cons_self, rfl⟩, ?_⟩
    intro token hmem other hgives
    rcases List.mem_cons.mp hmem with rfl | hmem
    · simpa [Pnp.Gives] using Eq.symm hgives
    · simp [List.mem_singleton.mp hmem, Pnp.Gives] at hgives
  have hvhex : Text.hex (0x46d : UInt32).toNat = "46d" := by
    simp [Text.hex, Text.hexDigits, Text.hexDigit]
  have hphex : Text.hex (0xc077 : UInt32).toNat = "c077" := by
    simp [Text.hex, Text.hexDigits, Text.hexDigit]
  have htext : "3/" ++ Text.hex (0x46d : UInt32).toNat ++ "/" ++ Text.hex (0xc077 : UInt32).toNat ++
      "/0" = "3/46d/c077/0" := by
    rw [hvhex, hphex]
    rfl
  refine ⟨hdescribes, hjoins, hv, hp, hvendor, hproduct, ?_⟩
  rw [← htext]
  have hname : (Device.bare "/dev/psm0" .add).sysname = "psm0" := by decide
  exact (synthesizeParent_of_spelled (hname ▸ hdescribes) hjoins hv hp hvendor).2.2.1 hproduct

end Classifier
end InputUdev

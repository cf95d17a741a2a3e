import InputUdev.Parent

/-!
# What a synthetic parent holds

The entries of a synthetic parent in order (`ParentInfo.toList_properties_device`,
`ParentInfo.toList_sysattrs_device`), and the name that is left of a description: as much of it as
holds no comma (`StripsTo`, `stripsTo_iff`).
-/

namespace InputUdev

/-! ## Names -/

/-- The name is the longest beginning of the description without a comma. -/
structure StripsTo (description name : String) : Prop where
  beginning : name.toList <+: description.toList
  no_comma : ',' ∉ name.toList
  longest : ∀ cs, cs <+: description.toList → ',' ∉ cs → cs <+: name.toList

theorem stripsTo_stripName (description : String) :
    StripsTo description (stripName description) where
  beginning := by
    rw [stripName, String.toList_ofList]
    exact List.takeWhile_prefix _
  no_comma := by
    rw [stripName, String.toList_ofList]
    intro hmem
    simpa using List.all_eq_true.mp List.all_takeWhile ',' hmem
  longest cs := by
    rintro ⟨rest, hrest⟩ hcs
    have hall : ∀ c ∈ cs, (c != ',') = true := fun c hc =>
      bne_iff_ne.mpr (ne_of_mem_of_not_mem hc hcs)
    rw [stripName, String.toList_ofList, ← hrest, List.takeWhile_append_of_pos hall]
    exact List.prefix_append ..

theorem stripsTo_iff {description name : String} :
    StripsTo description name ↔ name = stripName description := by
  constructor
  · intro h
    have h' := stripsTo_stripName description
    have hle := h'.longest _ h.beginning h.no_comma
    exact String.toList_inj.mp
      (hle.eq_of_length_le (h.longest _ h'.beginning h'.no_comma).length_le)
  · rintro rfl
    exact stripsTo_stripName description

/-! ## Entries -/

namespace ParentInfo

variable (p : ParentInfo)

theorem toList_properties_device :
    p.device.properties.toList = ("NAME", p.name) :: (p.product.map ("PRODUCT", ·)).toList := by
  rcases p with ⟨sysname, name, _ | product, _ | pnpId⟩ <;> rfl

theorem toList_sysattrs_device :
    p.device.sysattrs.toList =
      ("name", p.name) :: if p.pnpId.isSome then [("id", p.product.getD "")] else [] := by
  rcases p with ⟨sysname, name, _ | product, _ | pnpId⟩ <;> rfl

theorem property?_device_product : p.device.property? "PRODUCT" = p.product := by
  rcases p with ⟨sysname, name, _ | product, _ | pnpId⟩ <;> rfl

/-- Beside its path and its entries a parent has nothing. -/
theorem device_eq :
    p.device = { Device.bare p.sysname .none with
      properties := p.device.properties, sysattrs := p.device.sysattrs } := by
  rcases p with ⟨sysname, name, _ | product, _ | pnpId⟩ <;> rfl

end ParentInfo
end InputUdev

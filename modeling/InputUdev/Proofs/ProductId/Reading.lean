import InputUdev.Capability
import InputUdev.KernelTree
import InputUdev.Proofs.ProductId.Hexadecimal
import Mathlib.Data.List.Forall2
import Mathlib.Data.List.Induction

/-!
# Product identities read back

`ProductId.Reads` says that a text is an identity, read field by field between its slashes. A number
has one text in hexadecimal (`Text.isHex_iff`), and a text of fields without slashes is cut into
just these (`ProductId.fieldsOf_eq_iff`), so that an identity has one text and a text one identity.
Main statement: so it is, also of the identities of event devices and of legacy devices
(`ProductId.reads_iff_render`).
-/

namespace InputUdev

namespace Text

theorem exists_hexDigit_eq {c : Char} (h : ('0' ≤ c ∧ c ≤ '9') ∨ ('a' ≤ c ∧ c ≤ 'f')) :
    ∃ d < 16, hexDigit d = c := by
  have hback : Char.ofNat c.toNat = c := Char.ofNat_toNat c
  simp only [Char.le_def, UInt32.le_iff_toNat_le] at h
  rcases h with ⟨hlow, hhigh⟩ | ⟨hlow, hhigh⟩
  · have hlow : 48 ≤ c.toNat := hlow
    have hhigh : c.toNat ≤ 57 := hhigh
    refine ⟨c.toNat - 48, by omega, ?_⟩
    rw [hexDigit, if_pos (by omega), Nat.add_sub_cancel' hlow, hback]
  · have hlow : 97 ≤ c.toNat := hlow
    have hhigh : c.toNat ≤ 102 := hhigh
    have hdigit : 87 + (c.toNat - 87) = c.toNat := by omega
    refine ⟨c.toNat - 87, by omega, ?_⟩
    rw [hexDigit, if_neg (by omega), hdigit, hback]

/-- The digits of a number are the only ones for it that do not begin with a needless zero. -/
theorem hexDigits_ofDigits {cs : List Char} (hne : cs ≠ [])
    (hlower : ∀ c ∈ cs, ('0' ≤ c ∧ c ≤ '9') ∨ ('a' ≤ c ∧ c ≤ 'f'))
    (hhead : cs.head? = some '0' → cs = ['0']) : hexDigits (ofDigits 16 cs) = cs := by
  -- from the last digit, which is the remainder; those before it do not begin with zero either
  induction cs using List.reverseRecOn with
  | nil => exact absurd rfl hne
  | append_singleton cs c ih =>
    obtain ⟨d, hd, rfl⟩ := exists_hexDigit_eq (hlower c (by simp))
    rw [ofDigits_concat, digitValue?_hexDigit d hd, Option.getD_some]
    cases cs with
    | nil =>
      have hvalue : ofDigits 16 [] * 16 + d = d := by simp [ofDigits]
      rw [hvalue, hexDigits, if_pos hd, List.nil_append]
    | cons first rest =>
      have hfirst : first ≠ '0' := by
        rintro rfl
        simpa using hhead rfl
      have hrest : hexDigits (ofDigits 16 (first :: rest)) = first :: rest := by
        refine ih (List.cons_ne_nil _ _) (fun c hc => hlower c (List.mem_append_left _ hc)) ?_
        intro hzero
        exact absurd (Option.some.inj hzero) hfirst
      have hpos : ofDigits 16 (first :: rest) ≠ 0 := by
        intro hzero
        rw [hzero, hexDigits, if_pos (by decide), List.cons.injEq] at hrest
        exact hfirst hrest.1.symm
      have hdiv : (ofDigits 16 (first :: rest) * 16 + d) / 16 = ofDigits 16 (first :: rest) := by
        omega
      have hmod : (ofDigits 16 (first :: rest) * 16 + d) % 16 = d := by omega
      rw [hexDigits, if_neg (by omega), hdiv, hmod, hrest]

theorem isHex_iff {n : Nat} {text : String} : IsHex n text ↔ text = hex n := by
  constructor
  · intro h
    have hne : text.toList ≠ [] := fun hnil => h.ne_empty (String.toList_eq_nil_iff.mp hnil)
    have hdigits : hexDigits (ofDigits 16 text.toList) = text.toList := by
      refine hexDigits_ofDigits hne h.lower fun hzero => ?_
      rw [h.eq_zero_of_head hzero]
      rfl
    rw [hex, ← h.value, hdigits, String.ofList_toList]
  · rintro rfl
    exact isHex_hex n

theorem hex_injective : Function.Injective hex := by
  intro n m h
  rw [← (isHex_hex n).value, h, (isHex_hex m).value]

end Text

namespace ProductId

/-- The texts between the slashes. -/
def fieldsOf (text : String) : List String := (text.toList.splitOn '/').map String.ofList

/-- Between its slashes the text has the numbers of the identity in hexadecimal, one after the
other. -/
def Reads (text : String) (id : ProductId) : Prop :=
  List.Forall₂ (fun field n => Text.IsHex n.toNat field) (fieldsOf text) id.fields

variable {text : String}

theorem fieldsOf_eq_iff {fields : List String} (hne : fields ≠ [])
    (hslash : ∀ field ∈ fields, '/' ∉ field.toList) :
    fieldsOf text = fields ↔ text = String.intercalate "/" fields := by
  constructor
  · rintro rfl
    have hback : String.toList ∘ String.ofList = id := funext fun _ => String.toList_ofList
    rw [← String.toList_inj, String.toList_intercalate, fieldsOf, List.map_map, hback, List.map_id]
    exact (List.intercalate_splitOn '/').symm
  · rintro rfl
    have hback : String.ofList ∘ String.toList = id := funext fun _ => String.ofList_toList
    have hlists : ∀ cs ∈ fields.map String.toList, '/' ∉ cs := by
      simpa using hslash
    have hsplit :
        (String.intercalate "/" fields).toList.splitOn '/' = fields.map String.toList := by
      rw [String.toList_intercalate]
      exact List.splitOn_intercalate '/' hlists (by simpa using hne)
    rw [fieldsOf, hsplit, List.map_map, hback, List.map_id]

/-- The numbers of the identity in hexadecimal. -/
def fieldTexts (id : ProductId) : List String := id.fields.map fun n => Text.hex n.toNat

theorem not_mem_slash_of_mem_fieldTexts (id : ProductId) :
    ∀ field ∈ id.fieldTexts, '/' ∉ field.toList := by
  intro field hfield hslash
  obtain ⟨n, -, rfl⟩ := List.mem_map.mp hfield
  exact absurd ((Text.isHex_hex n.toNat).lower '/' hslash) (by decide)

variable {id : ProductId}

theorem fieldsOf_eq_fieldTexts_iff : fieldsOf text = id.fieldTexts ↔ text = id.render :=
  fieldsOf_eq_iff (List.cons_ne_nil _ _) id.not_mem_slash_of_mem_fieldTexts

theorem reads_iff : Reads text id ↔ text = id.render := by
  simp only [Reads, Text.isHex_iff]
  rw [← List.forall₂_map_right_iff, List.forall₂_eq_eq_eq]
  exact fieldsOf_eq_fieldTexts_iff

theorem fieldTexts_injective : Function.Injective fieldTexts := by
  intro id id' h
  have hhex : Function.Injective fun n : UInt32 => Text.hex n.toNat :=
    Text.hex_injective.comp fun _ _ => UInt32.toNat_inj.mp
  have hfields : id.fields = id'.fields := List.map_injective_iff.mpr hhex h
  cases id
  cases id'
  simpa [fields] using hfields

theorem render_injective : Function.Injective render := by
  intro id id' h
  apply fieldTexts_injective
  rw [← fieldsOf_eq_fieldTexts_iff.mpr rfl, h, fieldsOf_eq_fieldTexts_iff.mpr rfl]

end ProductId

theorem EventId.productId_injective : Function.Injective EventId.productId := by
  rintro ⟨bus, vendor, product, version⟩ ⟨bus', vendor', product', version'⟩ h
  simpa [EventId.productId, UInt16.toUInt32_inj] using h

theorem LegacyId.productId_injective : Function.Injective LegacyId.productId := by
  rintro ⟨bus, vendor, product⟩ ⟨bus', vendor', product'⟩ h
  simpa [LegacyId.productId] using h

/-- The four numbers of the event device are those of the legacy device, whose version is zero. -/
def EventId.SameNumbers (e : EventId) (l : LegacyId) : Prop :=
  e.bus.toNat = l.bus.toNat ∧ e.vendor.toNat = l.vendor.toNat ∧
    e.product.toNat = l.product.toNat ∧ e.version.toNat = 0

theorem EventId.productId_eq_iff {e : EventId} {l : LegacyId} :
    e.productId = l.productId ↔ e.SameNumbers l := by
  simp [SameNumbers, EventId.productId, LegacyId.productId, ← UInt32.toNat_inj]

namespace ProductId

/-- A text is that of an identity exactly if it has the four numbers in hexadecimal between its
slashes, and so two identities have one text only if they are the same, be they those of event
devices or of legacy devices. -/
theorem reads_iff_render :
    (∀ id text, Reads text id ↔ text = id.render) ∧
    (∀ id id' : ProductId, id.render = id'.render ↔ id = id') ∧
    (∀ e e' : EventId, e.productId.render = e'.productId.render ↔ e = e') ∧
    (∀ l l' : LegacyId, l.productId.render = l'.productId.render ↔ l = l') ∧
    ∀ (e : EventId) (l : LegacyId),
      e.productId.render = l.productId.render ↔ e.SameNumbers l := by
  refine ⟨fun _ _ => reads_iff, fun _ _ => render_injective.eq_iff,
    fun _ _ => (render_injective.comp EventId.productId_injective).eq_iff,
    fun _ _ => (render_injective.comp LegacyId.productId_injective).eq_iff, fun e l => ?_⟩
  rw [render_injective.eq_iff]
  exact EventId.productId_eq_iff

end ProductId
end InputUdev

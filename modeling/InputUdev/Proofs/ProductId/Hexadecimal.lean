import InputUdev.ProductId

/-!
# The text of a product identity

`Text.IsHex` says which text is a number in hexadecimal, and `ProductId.IsText` which text is an
identity: its four numbers between slashes. What is written for a number and for an identity is of
this form (`Text.isHex_hex`, `ProductId.isText_render`).
-/

namespace InputUdev

namespace Text

/-! ## Digits -/

theorem ofDigits_concat (base : Nat) (cs : List Char) (c : Char) :
    ofDigits base (cs ++ [c]) = ofDigits base cs * base + (digitValue? c).getD 0 := by
  rw [ofDigits, List.foldl_append, List.foldl_cons, List.foldl_nil, ofDigits]

theorem digitValue?_hexDigit : ∀ n < 16, digitValue? (hexDigit n) = some n := by decide

theorem hexDigit_lower :
    ∀ n < 16, ('0' ≤ hexDigit n ∧ hexDigit n ≤ '9') ∨ ('a' ≤ hexDigit n ∧ hexDigit n ≤ 'f') := by
  decide

theorem eq_zero_of_hexDigit : ∀ n < 16, hexDigit n = '0' → n = 0 := by decide

theorem ofDigits_hexDigits (n : Nat) : ofDigits 16 (hexDigits n) = n := by
  induction n using hexDigits.induct with
  | case1 n hn =>
    rw [hexDigits, if_pos hn, ← List.nil_append [hexDigit n], ofDigits_concat,
      digitValue?_hexDigit n hn]
    simp [ofDigits]
  | case2 n hn ih =>
    have hmod := Nat.mod_lt n (show 16 > 0 by decide)
    rw [hexDigits, if_neg hn, ofDigits_concat, ih, digitValue?_hexDigit _ hmod, Option.getD_some]
    omega

theorem lower_of_mem_hexDigits (n : Nat) :
    ∀ c ∈ hexDigits n, ('0' ≤ c ∧ c ≤ '9') ∨ ('a' ≤ c ∧ c ≤ 'f') := by
  induction n using hexDigits.induct with
  | case1 n hn =>
    intro c hc
    rw [hexDigits, if_pos hn, List.mem_singleton] at hc
    exact hc ▸ hexDigit_lower n hn
  | case2 n hn ih =>
    intro c hc
    rw [hexDigits, if_neg hn, List.mem_append, List.mem_singleton] at hc
    rcases hc with hc | rfl
    · exact ih c hc
    · exact hexDigit_lower _ (Nat.mod_lt n (by decide))

theorem eq_zero_of_head_hexDigits {n : Nat} (h : (hexDigits n).head? = some '0') : n = 0 := by
  induction n using hexDigits.induct with
  | case1 n hn =>
    rw [hexDigits, if_pos hn, List.head?_cons] at h
    exact eq_zero_of_hexDigit n hn (Option.some.inj h)
  | case2 n hn ih =>
    have hne := hexDigits_ne_nil (n / 16)
    rw [hexDigits, if_neg hn, List.head?_append, List.head?_eq_some_head hne, Option.some_or,
      ← List.head?_eq_some_head hne] at h
    have hdiv := ih h
    omega

/-! ## Numbers -/

/-- The text is the number in lowercase hexadecimal digits, with no zero before another digit. -/
structure IsHex (n : Nat) (text : String) : Prop where
  ne_empty : text ≠ ""
  lower : ∀ c ∈ text.toList, ('0' ≤ c ∧ c ≤ '9') ∨ ('a' ≤ c ∧ c ≤ 'f')
  eq_zero_of_head : text.toList.head? = some '0' → text = "0"
  value : ofDigits 16 text.toList = n

theorem hex_of_lt {n : Nat} (hn : n < 16) : hex n = String.singleton (hexDigit n) := by
  rw [hex, hexDigits, if_pos hn]
  rfl

theorem isHex_hex (n : Nat) : IsHex n (hex n) where
  ne_empty := by
    rw [hex, ne_eq, ← String.toList_eq_nil_iff, String.toList_ofList]
    exact hexDigits_ne_nil n
  lower := by
    rw [hex, String.toList_ofList]
    exact lower_of_mem_hexDigits n
  eq_zero_of_head h := by
    rw [hex, String.toList_ofList] at h
    rw [eq_zero_of_head_hexDigits h, hex_of_lt (by decide)]
    rfl
  value := by rw [hex, String.toList_ofList, ofDigits_hexDigits]

end Text

namespace ProductId

/-- The text is the four numbers of the identity in hexadecimal, joined by slashes. -/
def IsText (id : ProductId) (text : String) : Prop :=
  ∃ bus vendor product version,
    Text.IsHex id.bus.toNat bus ∧ Text.IsHex id.vendor.toNat vendor ∧
      Text.IsHex id.product.toNat product ∧ Text.IsHex id.version.toNat version ∧
      text = bus ++ "/" ++ vendor ++ "/" ++ product ++ "/" ++ version

theorem render_eq (id : ProductId) :
    id.render = Text.hex id.bus.toNat ++ "/" ++ Text.hex id.vendor.toNat ++ "/" ++
      Text.hex id.product.toNat ++ "/" ++ Text.hex id.version.toNat := rfl

theorem isText_render (id : ProductId) : id.IsText id.render :=
  ⟨_, _, _, _, Text.isHex_hex _, Text.isHex_hex _, Text.isHex_hex _, Text.isHex_hex _, render_eq id⟩

end ProductId
end InputUdev

import InputUdev.Proofs.Pnp.Tokens

/-!
# Blobs as lists of pairs

A blob is as good as the list of its pairs, in which the first pair with a key counts: of two blobs
with a gap between them the first goes first (`Pnp.value?_append_gap`), pairs that are written down
are found again (`Pnp.value?_render`), and tokens with keys of their own are found in any order
(`Pnp.DistinctKeys.value?_of_perm`). Main statement: all three hold, whatever the gaps
(`Pnp.value_firstWins`).
-/

namespace InputUdev.Pnp

/-- The text between two tokens. -/
structure Gap where
  text : String
  ne_empty : text ≠ ""
  separators : ∀ c ∈ text.toList, isSeparator c = true

/-- A key and a value that a blob can hold. The value may have equals signs, and either may be
empty. -/
structure Entry where
  key : String
  value : String
  key_plain : ∀ c ∈ key.toList, isSeparator c = false
  key_no_equals : '=' ∉ key.toList
  value_plain : ∀ c ∈ value.toList, isSeparator c = false

namespace Entry

def pair (e : Entry) : String × String := (e.key, e.value)

def text (e : Entry) : String := e.key ++ "=" ++ e.value

end Entry

/-- The entries as tokens, with a gap between any two. -/
def render (gap : Nat → Gap) : List Entry → String
  | [] => ""
  | [e] => e.text
  | e :: e' :: es => e.text ++ (gap 0).text ++ render (fun n => gap (n + 1)) (e' :: es)

/-- No two of the tokens give one key a value, a key being what stands before the first equals sign.
A token without a key may be there any number of times. -/
def DistinctKeys (ts : List (List Char)) : Prop :=
  ts.Pairwise fun token token' => ∀ key value value', '=' ∉ key →
    Gives key value token → ¬ Gives key value' token'

variable {ts ts' : List (List Char)} {blob blob' key : String}

/-! ## One blob after the other -/

theorem value?_append_gap (a b : String) (gap : Gap) (key : String) :
    value? (a ++ gap.text ++ b) key = (value? a key).or (value? b key) := by
  have hne : gap.text.toList ≠ [] := fun h => gap.ne_empty (String.toList_eq_nil_iff.mp h)
  rw [value?, String.toList_append, String.toList_append, pairs_append_gap hne gap.separators,
    List.lookup_append, Option.map_or]
  rfl

/-! ## Entries written down and found -/

theorem Entry.pairs_text (e : Entry) : pairs e.text.toList = [(e.key.toList, e.value.toList)] := by
  have hgives : Gives e.key.toList e.value.toList e.text.toList := by
    simp [Gives, Entry.text]
  have hplain : ∀ c ∈ e.text.toList, isSeparator c = false := by
    rw [hgives, List.forall_mem_append, List.forall_mem_cons]
    exact ⟨e.key_plain, rfl, e.value_plain⟩
  rw [pairs_token hplain, List.filterMap_cons_some (pair?_of_gives e.key_no_equals hgives),
    List.filterMap_nil]

theorem Entry.value?_text (e : Entry) (key : String) :
    value? e.text key = [e.pair].lookup key := by
  rw [value?, e.pairs_text, List.lookup_cons, Entry.pair, List.lookup_cons]
  by_cases hkey : key = e.key
  · subst hkey
    simp [String.ofList_toList]
  · have hkey' : key.toList ≠ e.key.toList := fun h => hkey (String.toList_inj.mp h)
    rw [beq_eq_false_iff_ne.mpr hkey, beq_eq_false_iff_ne.mpr hkey']
    rfl

theorem value?_render (gap : Nat → Gap) (es : List Entry) (key : String) :
    value? (render gap es) key = (es.map Entry.pair).lookup key := by
  induction es generalizing gap with
  | nil => rfl
  | cons e es ih =>
    cases es with
    | nil => exact e.value?_text key
    | cons e' es =>
      rw [render, value?_append_gap, ih, e.value?_text, ← List.lookup_append]
      rfl

/-! ## Tokens in any order -/

theorem distinctKeys_iff : DistinctKeys ts ↔ ((ts.filterMap pair?).map Prod.fst).Nodup := by
  rw [List.Nodup, List.pairwise_map, List.pairwise_filterMap, DistinctKeys]
  refine ⟨fun h => h.imp ?_, fun h => h.imp ?_⟩
  · rintro token token' hdistinct ⟨key, value⟩ hpair ⟨_, value'⟩ hpair' rfl
    exact hdistinct key value value' (not_mem_equals_of_pair? hpair) (gives_of_pair? hpair)
      (gives_of_pair? hpair')
  · intro token token' hne key value value' hkey hgives hgives'
    exact hne _ (pair?_of_gives hkey hgives) _ (pair?_of_gives hkey hgives') rfl

instance (ts : List (List Char)) : Decidable (DistinctKeys ts) :=
  decidable_of_iff' _ distinctKeys_iff

theorem DistinctKeys.perm (h : DistinctKeys ts) (hperm : ts.Perm ts') : DistinctKeys ts' :=
  hperm.pairwise h fun hdistinct key value value' hkey hgives hgives' =>
    hdistinct key value' value hkey hgives' hgives

theorem DistinctKeys.firstGives_iff {key value : List Char} (h : DistinctKeys ts)
    (hkey : '=' ∉ key) : FirstGives key value ts ↔ ∃ token ∈ ts, Gives key value token := by
  refine ⟨FirstGives.exists_gives, ?_⟩
  rintro ⟨token, hmem, hgives⟩
  induction ts with
  | nil => cases hmem
  | cons first ts ih =>
    obtain ⟨hfirst, hrest⟩ := List.pairwise_cons.mp h
    rcases List.mem_cons.mp hmem with rfl | hmem
    · exact .head hgives
    · exact .tail (fun other hother => hfirst token hmem key other value hkey hother hgives)
        (ih hrest hmem)

theorem DistinctKeys.value?_of_perm (h : DistinctKeys ts) (hperm : ts.Perm ts')
    (hts : Joins ts blob.toList) (hts' : Joins ts' blob'.toList) (hkey : '=' ∉ key.toList) :
    value? blob key = value? blob' key := by
  refine Option.ext fun value => ?_
  rw [value?_eq_some_iff hkey hts, value?_eq_some_iff hkey hts', h.firstGives_iff hkey,
    (h.perm hperm).firstGives_iff hkey]
  simp only [hperm.mem_iff]

theorem DistinctKeys.ofBlob_of_perm (h : DistinctKeys ts) (hperm : ts.Perm ts')
    (hts : Joins ts blob.toList) (hts' : Joins ts' blob'.toList) :
    PnpInfo.ofBlob blob = PnpInfo.ofBlob blob' := by
  rw [PnpInfo.ofBlob, PnpInfo.ofBlob]
  congr 1
  · exact h.value?_of_perm hperm hts hts' (by decide)
  · exact h.value?_of_perm hperm hts hts' (by decide)
  · exact h.value?_of_perm hperm hts hts' (by decide)
  · rw [h.value?_of_perm hperm hts hts' (by decide)]

/-- A blob is looked up like a list of pairs of which the first with a key counts: two blobs with a
gap between them are such lists one after the other, entries that are written down with any gaps
between them are found as in their list, and tokens with keys of their own identify the same device
in every order. -/
theorem value_firstWins :
    (∀ (a b : String) (gap : Gap) (key : String),
      value? (a ++ gap.text ++ b) key = (value? a key).or (value? b key)) ∧
    (∀ (gap : Nat → Gap) (es : List Entry) (key : String),
      value? (render gap es) key = (es.map Entry.pair).lookup key) ∧
    ∀ (ts ts' : List (List Char)) (blob blob' : String),
      Joins ts blob.toList → Joins ts' blob'.toList → DistinctKeys ts → ts.Perm ts' →
      PnpInfo.ofBlob blob = PnpInfo.ofBlob blob' :=
  ⟨value?_append_gap, value?_render, fun _ _ _ _ hts hts' hdistinct hperm =>
    hdistinct.ofBlob_of_perm hperm hts hts'⟩

/-- A key that ends like another is a key of its own, and a token without a key is in no one's
way. -/
theorem value_firstWins_subvendor :
    DistinctKeys (tokens "subvendor=0x1028,acpi vendor=0x8086".toList) ∧
    (tokens "subvendor=0x1028,acpi vendor=0x8086".toList).Perm
      (tokens "vendor=0x8086\tacpi\nsubvendor=0x1028".toList) ∧
    PnpInfo.ofBlob "subvendor=0x1028,acpi vendor=0x8086" =
      PnpInfo.ofBlob "vendor=0x8086\tacpi\nsubvendor=0x1028" := by
  have hdistinct : DistinctKeys (tokens "subvendor=0x1028,acpi vendor=0x8086".toList) := by decide
  have hperm : (tokens "subvendor=0x1028,acpi vendor=0x8086".toList).Perm
      (tokens "vendor=0x8086\tacpi\nsubvendor=0x1028".toList) := by decide
  exact ⟨hdistinct, hperm,
    value_firstWins.2.2 _ _ _ _ (joins_tokens _) (joins_tokens _) hdistinct hperm⟩

end InputUdev.Pnp

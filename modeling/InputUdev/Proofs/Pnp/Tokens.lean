import InputUdev.Pnp

/-!
# The tokens of a blob

`Pnp.Joins` says that a blob is made of tokens with separators between them, however many. The pairs
of the blob are those of the tokens (`Pnp.pairs_of_joins`), so that a key has the value that the
first token for it gives (`Pnp.value?_eq_some_iff`), and no value if there is no such token
(`Pnp.value?_eq_none_iff`).
-/

namespace InputUdev.Pnp

/-- The blob is made of the tokens, with one or more separators between any two. -/
inductive Joins : List (List Char) → List Char → Prop
  | last : (∀ c ∈ token, isSeparator c = false) → Joins [token] token
  | cons : (∀ c ∈ token, isSeparator c = false) → gap ≠ [] → (∀ c ∈ gap, isSeparator c = true) →
    Joins ts blob → Joins (token :: ts) (token ++ gap ++ blob)

/-- The token is the key, an equals sign and the value. -/
def Gives (key value token : List Char) : Prop := token = key ++ '=' :: value

/-- The first of the tokens for the key gives it the value. -/
inductive FirstGives (key value : List Char) : List (List Char) → Prop
  | head : Gives key value token → FirstGives key value (token :: ts)
  | tail : (∀ other, ¬ Gives key other token) → FirstGives key value ts →
    FirstGives key value (token :: ts)

variable {key value token gap blob : List Char} {ts : List (List Char)}

/-! ## One token -/

theorem takeWhile_append_equals (hkey : '=' ∉ key) :
    (key ++ '=' :: value).takeWhile (· != '=') = key := by
  rw [List.takeWhile_append_of_pos fun c hc => bne_iff_ne.mpr (ne_of_mem_of_not_mem hc hkey)]
  simp

theorem dropWhile_append_equals (hkey : '=' ∉ key) :
    (key ++ '=' :: value).dropWhile (· != '=') = '=' :: value := by
  rw [List.dropWhile_append_of_pos fun c hc => bne_iff_ne.mpr (ne_of_mem_of_not_mem hc hkey)]
  simp

theorem pair?_of_gives (hkey : '=' ∉ key) (h : Gives key value token) :
    pair? token = some (key, value) := by
  cases h
  simp only [pair?, dropWhile_append_equals hkey, takeWhile_append_equals hkey]

theorem gives_of_pair? (h : pair? token = some (key, value)) : Gives key value token := by
  have hsplit := List.takeWhile_append_dropWhile (p := (· != '=')) (l := token)
  have hhead := List.head?_dropWhile_not (· != '=') token
  rw [pair?] at h
  split at h
  · cases h
  · rename_i c rest hdrop
    cases h
    rw [hdrop, List.head?_cons] at hhead
    have hc : c = '=' := by simpa using hhead
    rw [hdrop, hc] at hsplit
    exact hsplit.symm

theorem not_mem_equals_of_pair? (h : pair? token = some (key, value)) : '=' ∉ key := by
  rw [pair?] at h
  split at h
  · cases h
  · cases h
    intro hmem
    simpa using List.all_eq_true.mp List.all_takeWhile _ hmem

theorem gives_iff_pair? (hkey : '=' ∉ key) :
    Gives key value token ↔ pair? token = some (key, value) :=
  ⟨pair?_of_gives hkey, gives_of_pair?⟩

/-! ## The pairs of a blob -/

theorem pairs_nil : pairs [] = [] := rfl

theorem pairs_append_separator {c : Char} (hc : isSeparator c = true) (front back : List Char) :
    pairs (front ++ c :: back) = pairs front ++ pairs back := by
  rw [pairs, tokens, List.splitOnP_append_cons front back hc, List.filterMap_append]
  rfl

theorem pairs_gap_append (hgap : ∀ c ∈ gap, isSeparator c = true) :
    pairs (gap ++ blob) = pairs blob := by
  induction gap with
  | nil => rfl
  | cons c gap ih =>
    obtain ⟨hc, hgap⟩ := List.forall_mem_cons.mp hgap
    have hcut := pairs_append_separator hc [] (gap ++ blob)
    rw [pairs_nil, List.nil_append, List.nil_append, ih hgap] at hcut
    exact hcut

theorem pairs_append_gap (hne : gap ≠ []) (hgap : ∀ c ∈ gap, isSeparator c = true)
    (front back : List Char) : pairs (front ++ gap ++ back) = pairs front ++ pairs back := by
  obtain ⟨c, gap, rfl⟩ := List.exists_cons_of_ne_nil hne
  obtain ⟨hc, hgap⟩ := List.forall_mem_cons.mp hgap
  rw [List.append_assoc, List.cons_append, pairs_append_separator hc, pairs_gap_append hgap]

theorem pairs_token (htoken : ∀ c ∈ token, isSeparator c = false) :
    pairs token = [token].filterMap pair? := by
  rw [pairs, tokens, List.splitOnP_eq_singleton htoken]

theorem pairs_of_joins (h : Joins ts blob) : pairs blob = ts.filterMap pair? := by
  induction h with
  | last htoken => exact pairs_token htoken
  | cons htoken hne hgap _ ih =>
    rw [pairs_append_gap hne hgap, ih, pairs_token htoken, ← List.filterMap_append,
      List.singleton_append]

/-- The texts between separators, empty ones included, are tokens of the blob. -/
theorem joins_tokens (blob : List Char) : Joins (tokens blob) blob := by
  induction blob with
  | nil => exact .last (List.forall_mem_nil _)
  | cons c blob ih =>
    rw [tokens, List.splitOnP_cons_eq_if_modifyHead, ← tokens]
    cases hc : isSeparator c with
    | true => exact .cons (List.forall_mem_nil _) (List.cons_ne_nil c []) (by simpa using hc) ih
    | false =>
      rw [if_neg (by simp)]
      cases hts : tokens blob with
      | nil => exact absurd hts (List.splitOnP_ne_nil _ _)
      | cons token ts =>
        rw [hts] at ih
        cases ih with
        | last htoken => exact .last (List.forall_mem_cons.mpr ⟨hc, htoken⟩)
        | cons htoken hne hgap hrest =>
          exact .cons (List.forall_mem_cons.mpr ⟨hc, htoken⟩) hne hgap hrest

/-! ## The value of a key -/

theorem firstGives_cons_iff : FirstGives key value (token :: ts) ↔
    Gives key value token ∨ (∀ other, ¬ Gives key other token) ∧ FirstGives key value ts := by
  constructor
  · intro h
    cases h with
    | head hgives => exact .inl hgives
    | tail hnone htail => exact .inr ⟨hnone, htail⟩
  · rintro (hgives | ⟨hnone, htail⟩)
    · exact .head hgives
    · exact .tail hnone htail

theorem lookup_filterMap_pair?_iff (hkey : '=' ∉ key) :
    (ts.filterMap pair?).lookup key = some value ↔ FirstGives key value ts := by
  induction ts with
  | nil =>
    refine iff_of_false (by simp) ?_
    intro h
    cases h
  | cons token ts ih =>
    rw [firstGives_cons_iff, ← ih]
    simp only [gives_iff_pair? hkey]
    cases hpair : pair? token with
    | none => simp [hpair]
    | some p =>
      obtain ⟨k, w⟩ := p
      rw [List.filterMap_cons_some hpair, List.lookup_cons]
      by_cases hk : key = k
      · simp [hk]
      · simp [Ne.symm hk, beq_eq_false_iff_ne.mpr hk]

theorem value?_eq_some_iff {blob key value : String} (hkey : '=' ∉ key.toList)
    (hts : Joins ts blob.toList) :
    value? blob key = some value ↔ FirstGives key.toList value.toList ts := by
  rw [value?, pairs_of_joins hts, Option.map_eq_some_iff, ← lookup_filterMap_pair?_iff hkey]
  constructor
  · rintro ⟨cs, hcs, rfl⟩
    rw [hcs, String.toList_ofList]
  · intro h
    exact ⟨value.toList, h, String.ofList_toList⟩

theorem value?_eq_none_iff {blob key : String} (hkey : '=' ∉ key.toList)
    (hts : Joins ts blob.toList) :
    value? blob key = none ↔ ∀ token ∈ ts, ∀ other, ¬ Gives key.toList other token := by
  rw [value?, pairs_of_joins hts, Option.map_eq_none_iff, List.lookup_eq_none_iff]
  simp only [List.mem_filterMap, gives_iff_pair? hkey, forall_exists_index, and_imp, Prod.forall,
    bne_iff_ne]
  constructor
  · intro h token htoken other hpair
    exact h _ other token htoken hpair rfl
  · rintro h _ other token htoken hpair rfl
    exact h token htoken other hpair

/-- Among the tokens of the blob there is one for the key, and the first gives it the value. -/
def HasValue (blob key value : String) : Prop :=
  ∃ ts, Joins ts blob.toList ∧ FirstGives key.toList value.toList ts

/-- The blob has a value for the key, be it empty. -/
def HasKey (blob key : String) : Prop := ∃ value, HasValue blob key value

theorem hasValue_iff {blob key value : String} (hkey : '=' ∉ key.toList) :
    HasValue blob key value ↔ value? blob key = some value := by
  constructor
  · rintro ⟨ts, hts, hfirst⟩
    exact (value?_eq_some_iff hkey hts).mpr hfirst
  · intro h
    exact ⟨_, joins_tokens _, (value?_eq_some_iff hkey (joins_tokens _)).mp h⟩

theorem not_hasKey_iff {blob key : String} (hkey : '=' ∉ key.toList) :
    ¬ HasKey blob key ↔ value? blob key = none := by
  simp only [HasKey, hasValue_iff hkey, not_exists, Option.eq_none_iff_forall_ne_some, ne_eq]

theorem FirstGives.exists_gives (h : FirstGives key value ts) :
    ∃ token ∈ ts, Gives key value token := by
  induction h with
  | head hgives => exact ⟨_, List.mem_cons_self, hgives⟩
  | tail _ _ ih =>
    obtain ⟨token, hmem, hgives⟩ := ih
    exact ⟨token, List.mem_cons_of_mem _ hmem, hgives⟩

/-- There is a token that gives the key the value, and none that gives it another. -/
structure OnlyGives (key value : List Char) (ts : List (List Char)) : Prop where
  exists_gives : ∃ token ∈ ts, Gives key value token
  eq_of_gives : ∀ token ∈ ts, ∀ other, Gives key other token → other = value

theorem OnlyGives.value? {blob key value : String} (h : OnlyGives key.toList value.toList ts)
    (hkey : '=' ∉ key.toList) (hts : Joins ts blob.toList) : value? blob key = some value := by
  cases hvalue : Pnp.value? blob key with
  | none =>
    obtain ⟨token, hmem, hgives⟩ := h.exists_gives
    exact absurd hgives ((value?_eq_none_iff hkey hts).mp hvalue token hmem _)
  | some other =>
    obtain ⟨token, hmem, hgives⟩ := ((value?_eq_some_iff hkey hts).mp hvalue).exists_gives
    exact congrArg some (String.toList_inj.mp (h.eq_of_gives token hmem _ hgives))

end InputUdev.Pnp

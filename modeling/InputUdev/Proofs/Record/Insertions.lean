import InputUdev.Proofs.Record.Marking
import Mathlib.Data.List.Perm.Subperm
import Mathlib.Data.List.Nodup

/-!
# Entries after insertions

Entries list what was inserted: each key once, in the order of the first insertions, with the value
of the last one (`Entries.Lists`). One insertion keeps to this (`Entries.Lists.insert`), and so does
any number of them (`Entries.Lists.insertAll`). Two lists of entries are the same exactly if they
have the same value for each key, in whatever order (`Entries.same_iff`).
-/

namespace InputUdev

namespace Association

variable {κ α : Type} [DecidableEq κ] {key : κ} {value : α} {l : List (κ × α)}

theorem isSome_lookup_iff : (l.lookup key).isSome = true ↔ key ∈ l.map Prod.fst := by
  induction l with
  | nil => exact iff_of_false Bool.false_ne_true List.not_mem_nil
  | cons p l ih =>
    rw [lookup_cons_eq, List.map_cons, List.mem_cons, ← ih]
    split <;> simp [*]

/-- Where keys are distinct, the order has no part in a look-up. -/
theorem lookup_eq_some_iff_mem (h : (l.map Prod.fst).Nodup) :
    l.lookup key = some value ↔ (key, value) ∈ l := by
  induction l with
  | nil => exact iff_of_false nofun List.not_mem_nil
  | cons p l ih =>
    obtain ⟨k, v⟩ := p
    obtain ⟨hk, hl⟩ := List.nodup_cons.mp h
    rw [lookup_cons_eq, List.mem_cons, Prod.mk.injEq]
    split
    · next heq =>
      obtain rfl : key = k := heq
      have hnot : (key, value) ∉ l := fun hmem =>
        hk (List.mem_map.mpr ⟨_, hmem, rfl⟩)
      simp [hnot, eq_comm]
    · next hne => simp [show key ≠ k from hne, ih hl]

end Association

namespace Entries

/-- Inserts the pairs one after the other. -/
def insertAll (e : Entries) (pairs : List (String × String)) : Entries :=
  pairs.foldl (fun e p => e.insert p.1 p.2) e

/-- The value of the last pair with the key, if there is one. -/
def lastValue? (pairs : List (String × String)) (key : String) : Option String :=
  pairs.reverse.lookup key

/-- The entries are what the insertion of the pairs leaves: each key once, in the order of the first
insertions, with the value of the last one. -/
structure Lists (e : Entries) (pairs : List (String × String)) : Prop where
  nodup : e.keys.Nodup
  mem_keys_iff : ∀ key, key ∈ e.keys ↔ key ∈ pairs.map Prod.fst
  ordered : e.keys.Pairwise fun key key' =>
    (pairs.map Prod.fst).idxOf key < (pairs.map Prod.fst).idxOf key'
  mem_toList_iff : ∀ key value, (key, value) ∈ e.toList ↔ lastValue? pairs key = some value

variable {e e' : Entries} {pairs : List (String × String)} {key value : String}

theorem nodup (e : Entries) : e.keys.Nodup := e.nodup_keys

theorem get?_eq_some_iff : e.get? key = some value ↔ (key, value) ∈ e.toList :=
  Association.lookup_eq_some_iff_mem e.nodup_keys

theorem isSome_get?_iff : (e.get? key).isSome = true ↔ key ∈ e.keys :=
  Association.isSome_lookup_iff

/-! ## Listings -/

theorem lastValue?_concat (k : String) :
    lastValue? (pairs ++ [(key, value)]) k =
      if k = key then some value else lastValue? pairs k := by
  rw [lastValue?, List.reverse_append, List.reverse_singleton, List.singleton_append,
    Association.lookup_cons_eq, lastValue?]

theorem lastValue?_eq_none_iff : lastValue? pairs key = none ↔ key ∉ pairs.map Prod.fst := by
  rw [← Option.not_isSome_iff_eq_none, lastValue?, Association.isSome_lookup_iff,
    List.map_reverse, List.mem_reverse]

theorem Lists.get?_eq (h : e.Lists pairs) (key : String) : e.get? key = lastValue? pairs key := by
  apply Option.ext
  intro value
  rw [get?_eq_some_iff, h.mem_toList_iff]

/-- The entries list themselves. -/
theorem lists_toList (e : Entries) : e.Lists e.toList where
  nodup := e.nodup
  mem_keys_iff _ := Iff.rfl
  ordered := by
    apply List.pairwise_iff_getElem.mpr
    intro i j hi hj hij
    change e.keys.idxOf e.keys[i] < e.keys.idxOf e.keys[j]
    rw [e.nodup.idxOf_getElem, e.nodup.idxOf_getElem]
    exact hij
  mem_toList_iff key value := by
    have hnodup : (e.toList.reverse.map Prod.fst).Nodup := by
      rw [List.map_reverse, List.nodup_reverse]
      exact e.nodup_keys
    rw [lastValue?, Association.lookup_eq_some_iff_mem hnodup, List.mem_reverse]

namespace Lists

/-- A key that was there keeps its place, and a new one comes behind all others. -/
theorem ordered_insert (h : e.Lists pairs) : (e.insert key value).keys.Pairwise fun k k' =>
    ((pairs ++ [(key, value)]).map Prod.fst).idxOf k <
      ((pairs ++ [(key, value)]).map Prod.fst).idxOf k' := by
  have hold : ∀ k ∈ e.keys, ((pairs ++ [(key, value)]).map Prod.fst).idxOf k =
      (pairs.map Prod.fst).idxOf k := by
    intro k hk
    rw [List.map_append, List.idxOf_append_of_mem ((h.mem_keys_iff k).mp hk)]
  have hordered : e.keys.Pairwise fun k k' =>
      ((pairs ++ [(key, value)]).map Prod.fst).idxOf k <
        ((pairs ++ [(key, value)]).map Prod.fst).idxOf k' := by
    apply h.ordered.imp_of_mem
    intro k k' hk hk' hlt
    rwa [hold k hk, hold k' hk']
  rw [keys_insert]
  split
  · exact hordered
  · next hnew =>
    apply List.pairwise_append.mpr
    refine ⟨hordered, List.pairwise_singleton .., fun k hk k' hk' => ?_⟩
    obtain rfl := List.mem_singleton.mp hk'
    have hlt := List.idxOf_lt_length_of_mem ((h.mem_keys_iff k).mp hk)
    rw [hold k hk, List.map_append, List.idxOf_append_of_notMem (mt (h.mem_keys_iff k').mpr hnew)]
    omega

/-- An insertion goes to the end of what was inserted. -/
theorem insert (h : e.Lists pairs) (key value : String) :
    (e.insert key value).Lists (pairs ++ [(key, value)]) where
  nodup := (e.insert key value).nodup
  mem_keys_iff k := by
    rw [← isSome_get?_iff, get?_insert, List.map_append, List.mem_append, ← h.mem_keys_iff,
      ← isSome_get?_iff]
    by_cases hk : k = key <;> simp [hk]
  ordered := h.ordered_insert
  mem_toList_iff k v := by
    rw [← get?_eq_some_iff, get?_insert, lastValue?_concat, h.get?_eq]

theorem insertAll (h : e.Lists pairs) (new : List (String × String)) :
    (e.insertAll new).Lists (pairs ++ new) := by
  induction new generalizing e pairs with
  | nil => rwa [List.append_nil]
  | cons p new ih =>
    rw [List.append_cons]
    exact ih (h.insert p.1 p.2)

end Lists

/-! ## Equality without regard to order -/

theorem perm_keys_of_get?_eq (h : ∀ key, e.get? key = e'.get? key) : e.keys.Perm e'.keys := by
  apply (List.perm_ext_iff_of_nodup e.nodup e'.nodup).mpr
  intro key
  rw [← isSome_get?_iff, ← isSome_get?_iff, h key]

theorem same_eq_true_iff : e.same e' = true ↔ e.toList.length = e'.toList.length ∧
    ∀ key value, (key, value) ∈ e.toList → e'.get? key = some value := by
  rw [same, Bool.and_eq_true, beq_iff_eq, List.all_eq_true]
  simp

/-- As many keys, all of which are among the others: they are the same keys. -/
theorem perm_keys_of_same (h : e.same e' = true) : e.keys.Perm e'.keys := by
  obtain ⟨hlength, hall⟩ := same_eq_true_iff.mp h
  have hsubset : e.keys ⊆ e'.keys := by
    intro key hkey
    obtain ⟨⟨k, value⟩, hmem, rfl⟩ := List.mem_map.mp hkey
    rw [← isSome_get?_iff, hall k value hmem]
    rfl
  apply (e.nodup.subperm hsubset).perm_of_length_le
  simp [keys, hlength]

theorem same_iff : e.same e' = true ↔ ∀ key, e.get? key = e'.get? key := by
  constructor
  · intro h key
    cases hget : e.get? key with
    | some value => exact ((same_eq_true_iff.mp h).2 key value (get?_eq_some_iff.mp hget)).symm
    | none =>
      have hnot : key ∉ e'.keys := by
        rw [← (perm_keys_of_same h).mem_iff, ← isSome_get?_iff, hget]
        exact Bool.false_ne_true
      rw [← isSome_get?_iff, Option.not_isSome_iff_eq_none] at hnot
      exact hnot.symm
  · intro h
    apply same_eq_true_iff.mpr
    refine ⟨by simpa [keys] using (perm_keys_of_get?_eq h).length_eq, fun key value hmem => ?_⟩
    rw [← h key, get?_eq_some_iff.mpr hmem]

end Entries
end InputUdev

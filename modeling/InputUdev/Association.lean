/-!
# Association lists

Lists of pairs in which a key keeps the place of its first insertion and the value of its last.
-/

namespace InputUdev.Association

variable {κ α : Type} [DecidableEq κ]

/-- Replaces the value of the first pair with the key, or appends a pair. -/
def upsert (key : κ) (value : α) : List (κ × α) → List (κ × α)
  | [] => [(key, value)]
  | (k, v) :: rest => if k = key then (key, value) :: rest else (k, v) :: upsert key value rest

theorem lookup_cons_eq (p : κ × α) (key : κ) (l : List (κ × α)) :
    (p :: l).lookup key = if key = p.1 then some p.2 else l.lookup key := by
  rw [List.lookup_cons]
  by_cases hk : key = p.1
  · simp [hk]
  · rw [if_neg hk, beq_false_of_ne hk]

theorem keys_upsert (key : κ) (value : α) (l : List (κ × α)) :
    (upsert key value l).map Prod.fst =
      if key ∈ l.map Prod.fst then l.map Prod.fst else l.map Prod.fst ++ [key] := by
  induction l with
  | nil => simp [upsert]
  | cons p rest ih =>
    obtain ⟨k, v⟩ := p
    by_cases h : k = key
    · simp [upsert, h]
    · have h' : key ≠ k := fun e => h e.symm
      simp only [upsert, if_neg h, List.map_cons, ih, List.mem_cons, h', false_or]
      split <;> simp_all

theorem nodup_upsert {l : List (κ × α)} (h : (l.map Prod.fst).Nodup) (key : κ) (value : α) :
    ((upsert key value l).map Prod.fst).Nodup := by
  rw [keys_upsert]
  split
  · exact h
  · rename_i hk
    rw [List.nodup_append]
    refine ⟨h, by simp, fun a ha b hb => ?_⟩
    rw [List.mem_singleton.mp hb]
    exact fun e => hk (e ▸ ha)

theorem lookup_upsert (key : κ) (value : α) (k : κ) (l : List (κ × α)) :
    (upsert key value l).lookup k = if k = key then some value else l.lookup k := by
  induction l with
  | nil => rw [upsert, lookup_cons_eq]
  | cons p rest ih =>
    obtain ⟨a, v⟩ := p
    rw [upsert, lookup_cons_eq]
    split
    · next ha =>
      subst ha
      rw [lookup_cons_eq]
      split <;> rfl
    · next ha =>
      rw [lookup_cons_eq, ih]
      split
      · next hk => rw [if_neg fun hkey => ha (hk.symm.trans hkey)]
      · rfl

theorem lookup_filter_ne (key : κ) (k : κ) (l : List (κ × α)) :
    (l.filter (·.1 != key)).lookup k = if k = key then none else l.lookup k := by
  induction l with
  | nil => simp
  | cons p rest ih =>
    by_cases hp : p.1 = key
    · rw [List.filter_cons_of_neg (by simpa using hp), ih, lookup_cons_eq, hp]
      split <;> rfl
    · rw [List.filter_cons_of_pos (by simpa using hp), lookup_cons_eq, ih, lookup_cons_eq]
      split
      · next hk => rw [if_neg fun hkey => hp (hk.symm.trans hkey)]
      · rfl

end InputUdev.Association

import InputUdev.Classifier

/-!
# Marking a device

To mark a device sets its properties for a list of keys and changes nothing else
(`Device.mark_eq`). A key that was there keeps its place, and the others follow at the end in the
order of the list (`Entries.toList_setAll`), so that no key is lost (`Entries.keys_setAll`) and a
second marking changes nothing (`Device.mark_mark`).
-/

namespace InputUdev

namespace Association

variable {κ α : Type} [DecidableEq κ] {key : κ} {value : α} {l : List (κ × α)}

theorem upsert_of_not_mem (h : key ∉ l.map Prod.fst) :
    upsert key value l = l ++ [(key, value)] := by
  induction l with
  | nil => rfl
  | cons p l ih =>
    obtain ⟨k, v⟩ := p
    rw [List.map_cons, List.mem_cons, not_or] at h
    rw [upsert, if_neg (Ne.symm h.1), ih h.2, List.cons_append]

theorem upsert_of_mem (hnodup : (l.map Prod.fst).Nodup) (h : key ∈ l.map Prod.fst) :
    upsert key value l = l.map fun p => if p.1 = key then (key, value) else p := by
  induction l with
  | nil => cases h
  | cons p l ih =>
    obtain ⟨k, v⟩ := p
    rw [List.map_cons, List.nodup_cons] at hnodup
    rw [List.map_cons]
    by_cases hk : k = key
    · subst hk
      have hrest : ∀ p ∈ l, (if p.1 = k then (k, value) else p) = p := by
        intro p hp
        exact if_neg fun hpk => hnodup.1 (List.mem_map.mpr ⟨p, hp, hpk⟩)
      rw [upsert, if_pos rfl, if_pos rfl, List.map_congr_left hrest, List.map_id']
    · rw [upsert, if_neg hk, if_neg hk, ih hnodup.2 (List.mem_of_ne_of_mem (Ne.symm hk) h)]

end Association

/-! ## Entries -/

namespace Entries

/-- Sets each of the keys to the value, one after the other. -/
def setAll (e : Entries) (keys : List String) (value : String) : Entries :=
  keys.foldl (fun e key => e.insert key value) e

variable {keys : List String} {value : String} {e : Entries}

theorem setAll_cons (key : String) :
    e.setAll (key :: keys) value = (e.insert key value).setAll keys value := rfl

theorem keys_insert (key : String) :
    (e.insert key value).keys = if key ∈ e.keys then e.keys else e.keys ++ [key] :=
  Association.keys_upsert key value e.toList

theorem toList_setAll (hkeys : keys.Nodup) :
    (e.setAll keys value).toList =
      e.toList.map (fun p => (p.1, if p.1 ∈ keys then value else p.2)) ++
        (keys.filter (· ∉ e.keys)).map (·, value) := by
  induction keys generalizing e with
  | nil => simp [setAll]
  | cons key keys ih =>
    obtain ⟨hkey, hkeys⟩ := List.nodup_cons.mp hkeys
    rw [setAll_cons, ih hkeys, keys_insert]
    by_cases hmem : key ∈ e.keys
    · -- the key is set in its place
      have hinsert : (e.insert key value).toList =
          e.toList.map fun p => if p.1 = key then (key, value) else p :=
        Association.upsert_of_mem e.nodup_keys hmem
      rw [if_pos hmem, hinsert, List.map_map, List.filter_cons_of_neg (by simpa using hmem)]
      congr 1
      apply List.map_congr_left
      intro p hp
      by_cases hp : p.1 = key <;> simp [hp]
    · -- the key comes next behind the others
      have hinsert : (e.insert key value).toList = e.toList ++ [(key, value)] :=
        Association.upsert_of_not_mem hmem
      have hothers : ∀ p ∈ e.toList, (p.1, if p.1 ∈ keys then value else p.2) =
          (p.1, if p.1 ∈ key :: keys then value else p.2) := by
        intro p hp
        have hne : p.1 ≠ key := ne_of_mem_of_not_mem (List.mem_map_of_mem hp) hmem
        simp [hne]
      have hmissing : ∀ k ∈ keys, decide (k ∉ e.keys ++ [key]) = decide (k ∉ e.keys) := by
        intro k hk
        simp [ne_of_mem_of_not_mem hk hkey]
      rw [if_neg hmem, hinsert, List.map_append, List.map_congr_left hothers,
        List.filter_cons_of_pos (by simpa using hmem), List.filter_congr hmissing]
      simp [hkey]

theorem keys_setAll (hkeys : keys.Nodup) :
    (e.setAll keys value).keys = e.keys ++ keys.filter (· ∉ e.keys) := by
  rw [Entries.keys, toList_setAll hkeys, List.map_append, List.map_map, List.map_map]
  simp [Entries.keys, Function.comp_def]

theorem setAll_setAll (hkeys : keys.Nodup) :
    (e.setAll keys value).setAll keys value = e.setAll keys value := by
  have hvalue : ∀ p ∈ (e.setAll keys value).toList,
      (p.1, if p.1 ∈ keys then value else p.2) = p := by
    intro p hp
    rw [toList_setAll hkeys, List.mem_append] at hp
    rcases hp with hp | hp
    · obtain ⟨q, -, rfl⟩ := List.mem_map.mp hp
      by_cases hq : q.1 ∈ keys <;> simp [hq]
    · obtain ⟨key, -, rfl⟩ := List.mem_map.mp hp
      simp
  have hmissing : keys.filter (· ∉ (e.setAll keys value).keys) = [] := by
    rw [List.filter_eq_nil_iff, keys_setAll hkeys]
    intro key hkey
    by_cases hmem : key ∈ e.keys <;> simp [hmem, hkey]
  apply ext_toList
  rw [toList_setAll hkeys, hmissing, List.map_congr_left hvalue]
  simp

theorem get?_setAll (key : String) :
    (e.setAll keys value).get? key = if key ∈ keys then some value else e.get? key := by
  induction keys generalizing e with
  | nil => simp [setAll]
  | cons k keys ih =>
    rw [setAll_cons, ih, get?_insert]
    by_cases hmem : key ∈ keys <;> simp [hmem]

end Entries

/-! ## Devices -/

namespace Device

variable {d : Device} {c : DeviceClass}

/-- The properties that mark a device of the class. -/
def marks (c : DeviceClass) : List String := "ID_INPUT" :: c.markers

theorem nodup_marks (c : DeviceClass) : (marks c).Nodup := by
  cases c <;> decide

theorem foldl_insertProperty (keys : List String) (value : String) :
    keys.foldl (fun d key => d.insertProperty key value) d =
      { d with properties := d.properties.setAll keys value } := by
  induction keys generalizing d with
  | nil => rfl
  | cons key keys ih => rw [List.foldl_cons, ih, Entries.setAll_cons]; rfl

theorem mark_eq : d.mark c = { d with properties := d.properties.setAll (marks c) "1" } :=
  foldl_insertProperty (marks c) "1"

theorem mark_mark : (d.mark c).mark c = d.mark c := by
  simp only [mark_eq, Entries.setAll_setAll (nodup_marks c)]

theorem ancestors_mark : (d.mark c).ancestors = d.ancestors := by rw [mark_eq]

theorem syspath_mark : (d.mark c).syspath = d.syspath := by rw [mark_eq]

theorem sysname_mark : (d.mark c).sysname = d.sysname := by rw [mark_eq]

end Device
end InputUdev

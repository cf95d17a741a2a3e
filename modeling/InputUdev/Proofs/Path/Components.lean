import InputUdev.Proofs.Path.TrailingSlashes

/-!
# The components of a path

No component holds a slash (`Path.not_mem_slash_of_mem_components`), and the components of an entry
of a directory are those of the directory and the entry's name (`Path.components_join`).
-/

namespace InputUdev.Path

theorem forall_not_of_mem_splitOnP {α : Type} {p : α → Bool} {part cs : List α}
    (h : part ∈ cs.splitOnP p) : ∀ c ∈ part, p c = false := by
  induction cs generalizing part with
  | nil =>
    rw [List.splitOnP_nil, List.mem_singleton] at h
    simp [h]
  | cons c cs ih =>
    rw [List.splitOnP_cons_eq_if_modifyHead] at h
    split at h
    · rcases List.mem_cons.mp h with rfl | h
      · simp
      · exact ih h
    · rename_i hc
      cases hparts : cs.splitOnP p with
      | nil => simp [hparts] at h
      | cons first rest =>
        rw [hparts, List.modifyHead_cons] at h
        rcases List.mem_cons.mp h with rfl | h
        · have hfirst := ih (hparts ▸ List.mem_cons_self)
          simpa [hc] using hfirst
        · exact ih (hparts ▸ List.mem_cons_of_mem _ h)

theorem not_mem_slash_of_mem_components {path name : String} (h : name ∈ components path) :
    '/' ∉ name.toList := by
  obtain ⟨cs, hcs, rfl⟩ := List.mem_map.mp h
  rw [String.toList_ofList]
  intro hslash
  simpa using forall_not_of_mem_splitOnP (List.mem_filter.mp hcs).1 _ hslash

/-! ## Entries of directories -/

variable {dir name : String}

theorem components_empty : components "" = [] := rfl

theorem components_of_not_mem_slash (hne : name ≠ "") (hname : '/' ∉ name.toList) :
    components name = [name] := by
  have hsplit : name.toList.splitOnP (· == '/') = [name.toList] :=
    List.splitOnP_eq_singleton fun c hc => beq_false_of_ne (ne_of_mem_of_not_mem hc hname)
  simp [components, hsplit, hne]

theorem components_append_slash (front back : List Char) :
    components (.ofList (front ++ '/' :: back)) =
      components (.ofList front) ++ components (.ofList back) := by
  have hsplit : (front ++ '/' :: back).splitOnP (· == '/') =
      front.splitOnP (· == '/') ++ back.splitOnP (· == '/') :=
    List.splitOnP_append_cons front back rfl
  simp [components, hsplit]

theorem components_join (hne : name ≠ "") (hname : '/' ∉ name.toList) :
    components (join dir name) = components dir ++ [name] := by
  have hslash (front : List Char) :
      components (.ofList (front ++ '/' :: name.toList)) =
        components (.ofList front) ++ [name] := by
    rw [components_append_slash, String.ofList_toList, components_of_not_mem_slash hne hname]
  by_cases hempty : dir = ""
  · have hjoin : join dir name = name := by simp [join, hempty]
    rw [hjoin, components_of_not_mem_slash hne hname, hempty, components_empty, List.nil_append]
  · by_cases hlast : dir.toList.getLast? = some '/'
    · obtain ⟨front, hfront⟩ := List.getLast?_eq_some_iff.mp hlast
      obtain rfl : dir = .ofList (front ++ '/' :: []) := String.ext (by simp [hfront])
      have hjoin : join (.ofList (front ++ ['/'])) name =
          .ofList (front ++ '/' :: name.toList) := by
        rw [join_of_slash (by simp)]
        exact String.ext (by simp)
      rw [hjoin, hslash, components_append_slash, components_empty, List.append_nil]
    · have hjoin : join dir name = .ofList (dir.toList ++ '/' :: name.toList) := by
        rw [join_of_not_slash hempty hlast]
        exact String.ext (by simp)
      rw [hjoin, hslash, String.ofList_toList]

end InputUdev.Path

import InputUdev.Proofs.FileTree.Listing
import InputUdev.Session

/-!
# Names without slashes

A tree that starts with a working directory only and is changed by writing and removing files holds
no name with a slash in it, whatever the paths are (`FileTree.slashFree_bare`,
`Session.slashFree_run`).
-/

namespace InputUdev

def NoSlash (names : List String) : Prop := ∀ name ∈ names, '/' ∉ name.toList

theorem noSlash_append_iff {names names' : List String} :
    NoSlash (names ++ names') ↔ NoSlash names ∧ NoSlash names' :=
  List.forall_mem_append

namespace FileTree

/-- No name in the tree holds a slash. -/
structure SlashFree (t : FileTree) : Prop where
  entries : ∀ names ∈ t.entries.map Prod.fst, NoSlash names
  home : NoSlash t.home

variable {t : FileTree} {names : List String}

theorem SlashFree.not_mem_slash {dir : List String} {name : String} (h : t.SlashFree)
    (hentry : t.HasEntry dir name) : '/' ∉ name.toList :=
  h.entries _ (isSome_node?_iff.mp hentry.entry) name (by simp)

theorem SlashFree.put (h : t.SlashFree) (hnames : NoSlash names) (node : FileNode) :
    (t.put names node).SlashFree := by
  refine ⟨fun names' hmem => ?_, h.home⟩
  rw [FileTree.put, Association.keys_upsert] at hmem
  split at hmem
  · exact h.entries _ hmem
  · rcases List.mem_append.mp hmem with hmem | hmem
    · exact h.entries _ hmem
    · exact List.mem_singleton.mp hmem ▸ hnames

theorem SlashFree.makeParents (h : t.SlashFree) (hnames : NoSlash names) :
    (t.makeParents names).SlashFree := by
  refine List.foldlRecOn (motive := SlashFree) _ _ h fun t ht n _ => ?_
  split
  · exact ht
  · exact ht.put (fun name hname => hnames name (List.mem_of_mem_take hname)) .directory

theorem SlashFree.noSlash_absolute (h : t.SlashFree) (path : String) :
    NoSlash (t.absolute path) := by
  refine List.foldlRecOn (motive := NoSlash) _ _ ?_ fun names hnames name hname => ?_
  · split
    · simp [NoSlash]
    · exact h.home
  · split
    · exact hnames
    · split
      · exact fun name hname => hnames name (List.dropLast_subset _ hname)
      · refine noSlash_append_iff.mpr ⟨hnames, ?_⟩
        rw [NoSlash, List.forall_mem_singleton]
        exact Path.not_mem_slash_of_mem_components hname

theorem SlashFree.write (h : t.SlashFree) (path : String) (node : FileNode) :
    (t.write path node).SlashFree :=
  (h.makeParents (h.noSlash_absolute path)).put (h.noSlash_absolute path) node

theorem SlashFree.remove (h : t.SlashFree) (path : String) : (t.remove path).SlashFree := by
  refine ⟨fun names hmem => ?_, h.home⟩
  obtain ⟨p, hp, rfl⟩ := List.mem_map.mp hmem
  exact h.entries _ (List.mem_map_of_mem (List.mem_filter.mp hp).1)

theorem slashFree_bare {home : List String} (hhome : NoSlash home) : (bare home).SlashFree := by
  have hnone : SlashFree {} := ⟨by simp, by simp [NoSlash]⟩
  exact ⟨((hnone.makeParents hhome).put hhome .directory).entries, hhome⟩

end FileTree

namespace Session

theorem slashFree_step {s : Session} (h : s.files.SlashFree) (st : Step) :
    (s.step st).files.SlashFree := by
  cases st with
  | write path node => exact h.write path node
  | remove path => exact h.remove path
  | reset | setMode => exact h
  | loadText | load | loadOptional | reload =>
    simp only [step]
    split <;> exact h

/-- No name with a slash gets into the tree in a session. -/
theorem slashFree_run {s : Session} (h : s.files.SlashFree) (steps : List Step) :
    (s.run steps).files.SlashFree := by
  induction steps generalizing s with
  | nil => exact h
  | cons st steps ih => exact ih (slashFree_step h st)

end Session
end InputUdev

import InputUdev.FileTree
import InputUdev.Proofs.Path.Components
import Mathlib.Data.List.Nodup

/-!
# The names in a directory

A directory is listed with each of its names once (`FileTree.listAt_of_directory`). A name in a
directory that is found leads to what the directory holds under this name, unless the path gets too
long (`FileTree.list_join`, `FileTree.list_of_tooLong`).
-/

namespace InputUdev.FileTree

/-- The name is one of those in the directory. -/
structure HasEntry (t : FileTree) (dir : List String) (name : String) : Prop where
  directory : t.node? dir = some .directory
  entry : (t.node? (dir ++ [name])).isSome

/-- The names in what the components lead to. -/
def listAt (t : FileTree) (dir : List String) : Except IoError (List String) :=
  match t.node? dir with
  | none => .error .notFound
  | some (.file _) => .error .notADirectory
  | some .directory =>
    .ok (t.entries.filterMap fun (entry, _) =>
      if entry.dropLast = dir then entry.getLast? else none)

variable {t : FileTree} {dir : List String} {path name : String}

theorem isSome_node?_iff :
    (t.node? (dir ++ [name])).isSome ↔ dir ++ [name] ∈ t.entries.map Prod.fst := by
  have hempty : (dir ++ [name]).isEmpty = false := by simp
  rw [node?, hempty, if_neg Bool.false_ne_true, List.lookup_isSome_iff]
  simp

/-- The components are those of a directory and a last one. -/
theorem lastIn_eq_some_iff {entry : List String} :
    (if entry.dropLast = dir then entry.getLast? else none) = some name ↔
      entry = dir ++ [name] := by
  constructor
  · intro h
    split at h
    · rename_i hdir
      rw [← hdir, List.dropLast_append_getLast? name h]
    · cases h
  · rintro rfl
    simp

theorem listAt_of_directory (h : t.node? dir = some .directory) :
    ∃ names, t.listAt dir = .ok names ∧ names.Nodup ∧
      ∀ name, name ∈ names ↔ t.HasEntry dir name := by
  refine ⟨_, by rw [listAt, h], ?_, fun name => ?_⟩
  · have hnodup := t.nodup_paths.filterMap (f := fun entry : List String =>
      if entry.dropLast = dir then entry.getLast? else none) fun _ _ _ hname hname' =>
        (lastIn_eq_some_iff.mp hname).trans (lastIn_eq_some_iff.mp hname').symm
    rwa [List.filterMap_map] at hnodup
  · simp only [List.mem_filterMap, lastIn_eq_some_iff]
    constructor
    · rintro ⟨⟨entry, node⟩, hmem, rfl⟩
      exact ⟨h, isSome_node?_iff.mpr (List.mem_map_of_mem hmem)⟩
    · intro hentry
      obtain ⟨p, hmem, hp⟩ := List.mem_map.mp (isSome_node?_iff.mp hentry.entry)
      exact ⟨p, hmem, hp⟩

theorem mem_of_listAt {names : List String} (h : t.listAt dir = .ok names) :
    names.Nodup ∧ ∀ name, name ∈ names ↔ t.HasEntry dir name := by
  cases hnode : t.node? dir with
  | none => simp [listAt, hnode] at h
  | some node =>
    cases node with
    | file content => simp [listAt, hnode] at h
    | directory =>
      obtain ⟨names', hnames', hnodup, hmem⟩ := listAt_of_directory hnode
      rw [hnames'] at h
      cases h
      exact ⟨hnodup, hmem⟩

theorem exists_listAt_of_list {names : List String} (h : t.list path = .ok names) :
    ∃ dir, t.listAt dir = .ok names := by
  cases hdir : t.resolve path with
  | error e => simp [list, hdir, bind, Except.bind] at h
  | ok dir =>
    rw [list, hdir] at h
    exact ⟨dir, h⟩

/-! ## Finding a directory -/

/-- A name that can be put after a path. -/
structure IsName (name : String) : Prop where
  ne_empty : name ≠ ""
  ne_dot : name ≠ "."
  ne_dots : name ≠ ".."
  not_mem_slash : '/' ∉ name.toList
  not_mem_nul : '\x00' ∉ name.toList
  size_le : name.utf8ByteSize ≤ maxName

/-- What the components of a path lead to. -/
def walk (t : FileTree) (path : String) : Except IoError (List String) :=
  (Path.components path).foldlM t.descend (if path.startsWith "/" then [] else t.home)

/-- A path can be looked up. -/
structure Readable (path : String) : Prop where
  ne_empty : path ≠ ""
  not_mem_nul : '\x00' ∉ path.toList
  size_le : path.utf8ByteSize ≤ maxPath

theorem descend_dot (h : t.node? dir = some .directory) : t.descend dir "." = .ok dir := by
  simp [descend, h]

theorem eq_of_descend_dot {dir' : List String} (h : t.descend dir' "." = .ok dir) : dir' = dir := by
  rw [descend] at h
  split at h
  · cases h
  · cases h
  · rw [if_pos rfl] at h
    exact Except.ok.inj h

theorem descend_of_isName (hname : IsName name) (h : t.node? dir = some .directory) :
    t.descend dir name =
      if (t.node? (dir ++ [name])).isSome then .ok (dir ++ [name]) else .error .notFound := by
  simp [descend, h, hname.ne_dot, hname.ne_dots, Nat.not_lt.mpr hname.size_le]

theorem resolve_of_readable (h : Readable path) :
    t.resolve path = t.walk path >>= fun dir =>
      (if path.endsWith "/" then ["."] else []).foldlM t.descend dir := by
  have hempty : path.isEmpty = false := by simpa using h.ne_empty
  rw [resolve, if_neg h.not_mem_nul, hempty, if_neg Bool.false_ne_true,
    if_neg (Nat.not_lt.mpr h.size_le), walk, List.foldlM_append]

theorem readable_of_resolve_eq_ok (h : t.resolve path = .ok dir) : Readable path := by
  rw [resolve] at h
  split at h
  · cases h
  · rename_i hnul
    split at h
    · cases h
    · rename_i hempty
      split at h
      · cases h
      · rename_i hlen
        exact ⟨by simpa using hempty, hnul, Nat.not_lt.mp hlen⟩

theorem walk_of_resolve_eq_ok (h : t.resolve path = .ok dir) : t.walk path = .ok dir := by
  rw [resolve_of_readable (readable_of_resolve_eq_ok h)] at h
  cases hwalk : t.walk path with
  | error e => simp [hwalk, bind, Except.bind] at h
  | ok dir' =>
    simp only [hwalk, bind, Except.bind] at h
    split at h
    · have hdot : t.descend dir' "." = .ok dir := by
        simpa only [List.foldlM_cons, List.foldlM_nil, bind_pure] using h
      exact congrArg _ (eq_of_descend_dot hdot)
    · exact h

/-- A slash at the end makes no difference to what is listed. -/
theorem list_of_readable (h : Readable path) : t.list path = t.walk path >>= t.listAt := by
  have hlist : t.list path = t.resolve path >>= t.listAt := rfl
  rw [hlist, resolve_of_readable h, bind_assoc]
  congr 1
  funext dir
  split
  · -- the step for the slash asks what the listing asks next
    cases hnode : t.node? dir with
    | none => simp [listAt, descend, hnode, bind, Except.bind]
    | some node =>
      cases node with
      | file content => simp [listAt, descend, hnode, bind, Except.bind]
      | directory => simp [descend_dot hnode, bind, Except.bind, pure, Except.pure]
  · rfl

theorem mem_join {c : Char} (h : c ∈ (Path.join path name).toList) :
    c ∈ path.toList ∨ c = '/' ∨ c ∈ name.toList := by
  rw [Path.join] at h
  split at h <;> simp at h <;> tauto

theorem not_mem_nul_join (hpath : '\x00' ∉ path.toList) (hname : IsName name) :
    '\x00' ∉ (Path.join path name).toList := by
  intro hnul
  rcases mem_join hnul with hnul | hnul | hnul
  · exact hpath hnul
  · cases hnul
  · exact hname.not_mem_nul hnul

theorem Readable.join (h : Readable path) (hname : IsName name)
    (hlen : (Path.join path name).utf8ByteSize ≤ maxPath) : Readable (Path.join path name) := by
  refine ⟨fun hempty => ?_, fun hnul => ?_, hlen⟩
  · have hparts : Path.components (Path.join path name) = Path.components path ++ [name] :=
      Path.components_join hname.ne_empty hname.not_mem_slash
    simp [hempty, Path.components_empty] at hparts
  · exact not_mem_nul_join h.not_mem_nul hname hnul

/-- The name makes no relative path absolute. -/
theorem startsWith_join (hpath : path ≠ "") :
    (Path.join path name).startsWith "/" = path.startsWith "/" := by
  have hne : path.toList ≠ [] := by simpa using hpath
  obtain ⟨c, cs, hcs⟩ := List.exists_cons_of_ne_nil hne
  rw [Bool.eq_iff_iff, String.startsWith_string_iff, String.startsWith_string_iff, Path.join]
  split <;> simp [hcs, List.cons_prefix_cons]

theorem walk_join (hpath : path ≠ "") (hname : IsName name) :
    t.walk (Path.join path name) = t.walk path >>= (t.descend · name) := by
  rw [walk, walk, startsWith_join hpath,
    Path.components_join hname.ne_empty hname.not_mem_slash, List.foldlM_append]
  simp

theorem list_join (hdir : t.resolve path = .ok dir) (hnode : t.node? dir = some .directory)
    (hname : IsName name) (hlen : (Path.join path name).utf8ByteSize ≤ maxPath) :
    t.list (Path.join path name) = t.listAt (dir ++ [name]) := by
  have hpath := readable_of_resolve_eq_ok hdir
  have hwalk : t.walk (Path.join path name) = t.descend dir name := by
    rw [walk_join hpath.ne_empty hname, walk_of_resolve_eq_ok hdir]
    rfl
  rw [list_of_readable (hpath.join hname hlen), hwalk, descend_of_isName hname hnode]
  split
  · rfl
  · rename_i hnone
    rw [Option.not_isSome_iff_eq_none] at hnone
    rw [listAt, hnone]
    rfl

theorem list_of_tooLong (hnul : '\x00' ∉ path.toList) (hlen : maxPath < path.utf8ByteSize) :
    t.list path = .error .nameTooLong := by
  have hempty : path.isEmpty = false := by
    rw [Bool.eq_false_iff, ne_eq, String.isEmpty_iff]
    rintro rfl
    exact absurd hlen (by decide)
  have hresolve : t.resolve path = .error .nameTooLong := by
    rw [resolve, if_neg hnul, hempty, if_neg Bool.false_ne_true, if_pos hlen]
  rw [list, hresolve]
  rfl

end InputUdev.FileTree

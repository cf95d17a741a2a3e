import InputUdev.Application
import InputUdev.Proofs.FileTree.Listing
import InputUdev.Proofs.FileTree.SlashFree
import Mathlib

/-!
# Scans

A scan looks into the device root and its directory of event devices. It fails when one of these
is there but cannot be read, and otherwise it lists what the rules claim in them, in ascending order
(`Application.discover_cases`).
-/

namespace InputUdev

/-- One of the directories that a scan looks into. -/
inductive ScansDir (root : String) : String → Prop
  | root : ScansDir root root
  | input : ScansDir root (Path.join root "input")

theorem exists_scansDir_iff {root : String} {p : String → Prop} :
    (∃ dir, ScansDir root dir ∧ p dir) ↔ p root ∨ p (Path.join root "input") := by
  constructor
  · rintro ⟨dir, hdir, hp⟩
    cases hdir with
    | root => exact .inl hp
    | input => exact .inr hp
  · rintro (hp | hp)
    · exact ⟨_, .root, hp⟩
    · exact ⟨_, .input, hp⟩

/-- The directory cannot be read, for another reason than that it does not exist. -/
inductive FileTree.Unreadable (files : FileTree) (dir : String) : Prop
  | intro : files.list dir = .error cause → cause ≠ .notFound → Unreadable files dir

/-- The path is that of an entry of the directory, and some rule claims it. -/
inductive FileTree.Claimed (files : FileTree) (rules : RuleTable) (dir : String) : String → Prop
  | intro : files.list dir = .ok names → name ∈ names →
    rules.subsystemFor (Path.join dir name) ≠ "unknown" →
      Claimed files rules dir (Path.join dir name)

/-- The claimed paths in the directories of a scan, in ascending order. No path is there twice,
unless a name has a slash in it. -/
structure FileTree.Listing (files : FileTree) (rules : RuleTable) (root : String)
    (found : List String) : Prop where
  ascending : found.Pairwise (· ≤ ·)
  mem_iff : ∀ path, path ∈ found ↔ ∃ dir, ScansDir root dir ∧ files.Claimed rules dir path
  nodup : files.SlashFree → found.Nodup

namespace FileTree

variable {files : FileTree} {rules : RuleTable} {dir : List String} {root path : String}
  {found : List String}

theorem not_unreadable_of_listAt (hlist : files.list path = files.listAt dir)
    (hfile : ∀ content, files.node? dir ≠ some (.file content)) : ¬ files.Unreadable path := by
  intro hunreadable
  obtain ⟨hcause, hne⟩ := hunreadable
  rw [hlist, listAt] at hcause
  split at hcause
  · cases hcause
    exact hne rfl
  · rename_i content hnode
    exact hfile content hnode
  · cases hcause

theorem claimed_iff (hlist : files.list path = files.listAt dir) {p : String} :
    files.Claimed rules path p ↔ ∃ name, files.HasEntry dir name ∧ Path.join path name = p ∧
      rules.subsystemFor p ≠ "unknown" := by
  constructor
  · intro hclaimed
    obtain ⟨hnames, hname, hclaims⟩ := hclaimed
    rw [hlist] at hnames
    exact ⟨_, ((mem_of_listAt hnames).2 _).mp hname, rfl, hclaims⟩
  · rintro ⟨name, hentry, rfl, hclaims⟩
    obtain ⟨names, hnames, -, hmem⟩ := listAt_of_directory hentry.directory
    exact .intro (hlist.trans hnames) ((hmem name).mpr hentry) hclaims

theorem Listing.strictlyAscending (h : files.Listing rules root found) (hfree : files.SlashFree) :
    found.Pairwise (· < ·) := by
  refine (h.ascending.and (h.nodup hfree)).imp ?_
  rintro a b ⟨hle, hne⟩
  exact Std.lt_of_le_of_ne hle hne

end FileTree

namespace Application

variable {app : Application} {dir : String}

theorem claimedIn_of_unreadable (h : app.files.Unreadable dir) :
    ∃ e, app.claimedIn dir = .error e := by
  obtain ⟨hlist, hcause⟩ := h
  rename_i cause
  refine ⟨.directory dir cause, ?_⟩
  rw [claimedIn, hlist]
  cases cause with
  | notFound => exact absurd rfl hcause
  | _ => rfl

theorem exists_claimedIn_of_readable (h : ¬ app.files.Unreadable dir) :
    ∃ found, app.claimedIn dir = .ok found ∧ found.Nodup ∧
      ∀ path, path ∈ found ↔ app.files.Claimed app.classifier.rules dir path := by
  cases hlist : app.files.list dir with
  | error cause =>
    have hcause : cause = .notFound := Classical.byContradiction fun hcause => h ⟨hlist, hcause⟩
    subst hcause
    refine ⟨[], by rw [claimedIn, hlist], List.nodup_nil, fun path => ?_⟩
    refine iff_of_false List.not_mem_nil fun hclaimed => ?_
    obtain ⟨hlist', -, -⟩ := hclaimed
    rw [hlist] at hlist'
    cases hlist'
  | ok names =>
    obtain ⟨_, hnames⟩ := FileTree.exists_listAt_of_list hlist
    refine ⟨_, by rw [claimedIn, hlist], ?_, fun path => ?_⟩
    · exact ((FileTree.mem_of_listAt hnames).1.map (Path.join_injective dir)).filter _
    · simp only [List.mem_filter, List.mem_map, bne_iff_ne]
      constructor
      · rintro ⟨⟨name, hname, rfl⟩, hclaims⟩
        exact .intro hlist hname hclaims
      · intro hclaimed
        obtain ⟨hlist', hname, hclaims⟩ := hclaimed
        rw [hlist] at hlist'
        cases hlist'
        exact ⟨⟨_, hname, rfl⟩, hclaims⟩

theorem pairwise_le_mergeSort (paths : List String) : paths.mergeSort.Pairwise (· ≤ ·) := by
  have hle : paths.mergeSort.Pairwise fun a b => decide (a ≤ b) = true :=
    List.pairwise_mergeSort (by simpa using fun a b c => String.le_trans)
      (by simpa using String.le_total) paths
  exact hle.imp of_decide_eq_true

/-- The two directories have no path in common. -/
theorem claimed_apart {files : FileTree} {rules : RuleTable} {root path path' : String}
    (hfree : files.SlashFree) (h : files.Claimed rules root path)
    (h' : files.Claimed rules (Path.join root "input") path') : path ≠ path' := by
  obtain ⟨hlist, hname, -⟩ := h
  obtain ⟨-, -, -⟩ := h'
  rename_i names name names' name'
  obtain ⟨dir, hnames⟩ := FileTree.exists_listAt_of_list hlist
  rw [Path.join_join (by decide) (by decide)]
  intro hjoin
  -- the two have the same name below the root, but only that of the event device has a slash
  have hslash := hfree.not_mem_slash (((FileTree.mem_of_listAt hnames).2 _).mp hname)
  simp [Path.join_injective _ hjoin] at hslash

theorem listing_mergeSort {files : FileTree} {rules : RuleTable} {root : String}
    {nodes events : List String} (hnodes : nodes.Nodup) (hevents : events.Nodup)
    (hmem : ∀ path, path ∈ nodes ↔ files.Claimed rules root path)
    (hmem' : ∀ path, path ∈ events ↔ files.Claimed rules (Path.join root "input") path) :
    files.Listing rules root (nodes ++ events).mergeSort where
  ascending := pairwise_le_mergeSort _
  mem_iff path := by
    rw [List.mem_mergeSort, List.mem_append, hmem, hmem', exists_scansDir_iff]
  nodup hfree := by
    rw [(List.mergeSort_perm _ _).nodup_iff, List.nodup_append]
    refine ⟨hnodes, hevents, fun node hnode event hevent => ?_⟩
    exact claimed_apart hfree ((hmem node).mp hnode) ((hmem' event).mp hevent)

/-- A scan fails if one of its directories is there but cannot be read, and else it lists the
claimed paths. -/
theorem discover_cases (app : Application) :
    (∃ dir e, ScansDir app.settings.root dir ∧ app.files.Unreadable dir ∧
      app.discover = .error e) ∨
    (∀ dir, ScansDir app.settings.root dir → ¬ app.files.Unreadable dir) ∧
      ∃ found, app.discover = .ok found ∧
        app.files.Listing app.classifier.rules app.settings.root found := by
  by_cases hroot : app.files.Unreadable app.settings.root
  · obtain ⟨e, he⟩ := claimedIn_of_unreadable hroot
    refine .inl ⟨_, e, .root, hroot, ?_⟩
    rw [discover, he]
    rfl
  · obtain ⟨nodes, hnodes, hnodup, hmem⟩ := exists_claimedIn_of_readable hroot
    by_cases hinput : app.files.Unreadable (Path.join app.settings.root "input")
    · obtain ⟨e, he⟩ := claimedIn_of_unreadable hinput
      refine .inl ⟨_, e, .input, hinput, ?_⟩
      rw [discover, hnodes, he]
      rfl
    · obtain ⟨events, hevents, hnodup', hmem'⟩ := exists_claimedIn_of_readable hinput
      refine .inr ⟨?_, _, by rw [discover, hnodes, hevents]; rfl,
        listing_mergeSort hnodup hnodup' hmem hmem'⟩
      intro dir hdir
      cases hdir with
      | root => exact hroot
      | input => exact hinput

end Application
end InputUdev

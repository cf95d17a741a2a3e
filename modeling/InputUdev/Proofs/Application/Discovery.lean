import InputUdev.Proofs.Application.Scan
import InputUdev.Proofs.RuleTable.Standard

/-!
# What a scan of the device root finds

The paths that a scan asks the rules about keep all slashes at the end of the device root, and the
rules keep none. With at most one slash there the scan finds every node that a rule is for, and with
more it finds nothing (`Application.discover_finds`, `Application.discover_misses_keyboard`).
-/

namespace InputUdev

open Glob

theorem RuleTable.subsystemFor_join_iff {root front name : String} {n : Nat} {on : Bool}
    (hplain : Plain root.toList) (hslashes : Path.EndsInSlashes root front n) (hne : root ≠ "") :
    (standard root on).subsystemFor (Path.join root name) ≠ unknownSubsystem ↔
      n ≤ 1 ∧ ∃ h, ServesName on h name := by
  have hhandler : (standard root on).subsystemFor (Path.join root name) ≠ unknownSubsystem ↔
      ∃ h name', Path.join root name = front ++ "/" ++ name' ∧ ServesName on h name' := by
    rw [subsystemFor_standard, ← hslashes.trimSlashes_eq]
    simp only [← handlerFor_standard_iff hplain.trimSlashes, ← Option.isSome_iff_exists]
    split <;> simp_all [unknownSubsystem]
  have hjoin := hslashes.toList_join hne name
  rw [hhandler]
  constructor
  · rintro ⟨h, name', hpath, hname⟩
    rw [hpath] at hjoin
    have hname' : '/' :: name'.toList = List.replicate (max n 1) '/' ++ name.toList := by
      simpa using hjoin
    rcases Nat.lt_or_ge 1 n with hn | hn
    · -- the second slash would have to be the first character of a node's name
      obtain ⟨m, rfl⟩ : ∃ m, n = m + 2 := ⟨n - 2, by omega⟩
      rw [Nat.max_eq_left (by omega), List.replicate_succ, List.cons_append, List.cons_inj_right,
        List.replicate_succ, List.cons_append] at hname'
      exact absurd (congrArg List.head? hname') hname.head_ne_slash
    · rw [Nat.max_eq_right hn] at hname'
      obtain rfl : name' = name := String.ext (by simpa using hname')
      exact ⟨hn, h, hname⟩
  · rintro ⟨hn, h, hname⟩
    refine ⟨h, name, String.ext ?_, hname⟩
    rw [hjoin, Nat.max_eq_right hn]
    simp

namespace Application

/-- The paths of the entries that a scan is to find: those of the device root that a rule is for,
and the event devices in its directory of event devices. -/
inductive Finds (on : Bool) (files : FileTree) (dir : List String) (front : String) : String → Prop
  | node : files.HasEntry dir name → h ≠ .evdev → ServesName on h name →
    Finds on files dir front (front ++ "/" ++ name)
  | event : files.HasEntry (dir ++ ["input"]) name → Numbered "event" name →
    Finds on files dir front (front ++ "/input/" ++ name)

variable {app : Application} {on : Bool} {dir : List String} {front path : String} {n : Nat}

theorem join_join_input (root name : String) :
    Path.join (Path.join root "input") name = Path.join root ("input/" ++ name) :=
  Path.join_join (by decide) (by decide) name

theorem isName_input : FileTree.IsName "input" := by
  constructor <;> decide

theorem finds_iff {files : FileTree} {root : String} (hplain : Plain root.toList)
    (hslashes : Path.EndsInSlashes root front n) (hne : root ≠ "") (hfree : files.SlashFree) :
    n ≤ 1 ∧ Finds on files dir front path ↔
      (∃ name, files.HasEntry dir name ∧ Path.join root name = path ∧
        (RuleTable.standard root on).subsystemFor path ≠ RuleTable.unknownSubsystem) ∨
      ∃ name, files.HasEntry (dir ++ ["input"]) name ∧
        Path.join (Path.join root "input") name = path ∧
        (RuleTable.standard root on).subsystemFor path ≠ RuleTable.unknownSubsystem := by
  have hjoin (hn : n ≤ 1) (name : String) : Path.join root name = front ++ "/" ++ name := by
    refine String.ext ?_
    rw [hslashes.toList_join hne, Nat.max_eq_right hn]
    simp
  have hinput (name : String) : front ++ "/input/" ++ name = front ++ "/" ++ ("input/" ++ name) :=
    String.ext (by simp)
  constructor
  · rintro ⟨hn, hfinds⟩
    cases hfinds with
    | node hentry hh hname =>
      refine .inl ⟨_, hentry, hjoin hn _, ?_⟩
      rw [← hjoin hn, RuleTable.subsystemFor_join_iff hplain hslashes hne]
      exact ⟨hn, _, hname⟩
    | event hentry hname =>
      refine .inr ⟨_, hentry, by rw [join_join_input, hjoin hn, hinput], ?_⟩
      rw [hinput, ← hjoin hn, RuleTable.subsystemFor_join_iff hplain hslashes hne]
      exact ⟨hn, .evdev, ServesName.input_iff.mpr ⟨rfl, hname⟩⟩
  · rintro (⟨name, hentry, rfl, hclaims⟩ | ⟨name, hentry, rfl, hclaims⟩)
    · obtain ⟨hn, h, hname⟩ := (RuleTable.subsystemFor_join_iff hplain hslashes hne).mp hclaims
      rw [hjoin hn]
      exact ⟨hn, .node hentry (hname.ne_evdev_of_not_mem_slash (hfree.not_mem_slash hentry)) hname⟩
    · rw [join_join_input] at hclaims ⊢
      obtain ⟨hn, h, hname⟩ := (RuleTable.subsystemFor_join_iff hplain hslashes hne).mp hclaims
      rw [hjoin hn, ← hinput]
      exact ⟨hn, .event hentry (ServesName.input_iff.mp hname).2⟩

/-- The program has the standard rules with evdev off or on, and its device root is a directory, the
path of which is `front` with `n` slashes after it and has no wildcard and no opening bracket. The
entry for event devices, if there is one, is a directory. -/
structure ScansRoot (app : Application) (on : Bool) (dir : List String) (front : String) (n : Nat) :
    Prop where
  rules : app.classifier.rules = app.settings.ruleTable on
  plain : Plain app.settings.root.toList
  slashes : Path.EndsInSlashes app.settings.root front n
  slashFree : app.files.SlashFree
  root : app.files.resolve app.settings.root = .ok dir
  directory : app.files.node? dir = some .directory
  input : ∀ content, app.files.node? (dir ++ ["input"]) ≠ some (.file content)

namespace ScansRoot

variable (h : app.ScansRoot on dir front n)

include h

theorem list_root : app.files.list app.settings.root = app.files.listAt dir := by
  rw [FileTree.list, h.root]
  rfl

theorem root_readable : ¬ app.files.Unreadable app.settings.root :=
  FileTree.not_unreadable_of_listAt h.list_root (by simp [h.directory])

theorem discover_of_tooLong
    (hlen : FileTree.maxPath < (Path.join app.settings.root "input").utf8ByteSize) :
    app.discover = .error (.directory (Path.join app.settings.root "input") .nameTooLong) := by
  obtain ⟨nodes, hnodes, -, -⟩ := exists_claimedIn_of_readable h.root_readable
  have hreadable := FileTree.readable_of_resolve_eq_ok h.root
  have hnul := FileTree.not_mem_nul_join hreadable.not_mem_nul isName_input
  have hevents : app.claimedIn (Path.join app.settings.root "input") =
      .error (.directory (Path.join app.settings.root "input") .nameTooLong) := by
    rw [claimedIn, FileTree.list_of_tooLong hnul hlen]
  rw [discover, hnodes, hevents]
  rfl

theorem exists_discover
    (hlen : (Path.join app.settings.root "input").utf8ByteSize ≤ FileTree.maxPath) :
    ∃ found, app.discover = .ok found ∧ found.Pairwise (· < ·) ∧
      ∀ path, path ∈ found ↔ n ≤ 1 ∧ Finds on app.files dir front path := by
  have hne : app.settings.root ≠ "" := (FileTree.readable_of_resolve_eq_ok h.root).ne_empty
  have hinput := FileTree.list_join h.root h.directory isName_input hlen
  rcases app.discover_cases with ⟨dir', e, hdir, hunreadable, -⟩ | ⟨-, found, hfound, hlisting⟩
  · cases hdir with
    | root => exact absurd hunreadable h.root_readable
    | input => exact absurd hunreadable (FileTree.not_unreadable_of_listAt hinput h.input)
  · refine ⟨found, hfound, hlisting.strictlyAscending h.slashFree, fun path => ?_⟩
    have hclaimed : path ∈ found ↔
        app.files.Claimed app.classifier.rules app.settings.root path ∨
          app.files.Claimed app.classifier.rules (Path.join app.settings.root "input") path := by
      rw [hlisting.mem_iff]
      exact exists_scansDir_iff
    rw [hclaimed, FileTree.claimed_iff h.list_root, FileTree.claimed_iff hinput, h.rules]
    exact (finds_iff h.plain h.slashes hne h.slashFree).symm

end ScansRoot

/-- A scan finds each entry that a rule is for once, in ascending order, if the device root has at
most one slash at its end, and nothing otherwise. It fails where the path of the directory of event
devices is too long to be read. -/
theorem discover_finds (h : app.ScansRoot on dir front n) :
    (FileTree.maxPath < (Path.join app.settings.root "input").utf8ByteSize →
      app.discover = .error (.directory (Path.join app.settings.root "input") .nameTooLong)) ∧
    ((Path.join app.settings.root "input").utf8ByteSize ≤ FileTree.maxPath →
      ∃ found, app.discover = .ok found ∧ found.Pairwise (· < ·) ∧
        ∀ path, path ∈ found ↔ n ≤ 1 ∧ Finds on app.files dir front path) :=
  ⟨h.discover_of_tooLong, h.exists_discover⟩

/-- A device root that holds a keyboard and an event device. -/
def sampleRoot : FileTree where
  entries := [(["dev"], .directory), (["dev", "ukbd0"], .file .empty),
    (["dev", "input"], .directory), (["dev", "input", "event3"], .file .empty)]

theorem scansRoot_sampleRoot {root : String} (hplain : Plain root.toList)
    (hslashes : Path.EndsInSlashes root "/dev" n) (hroot : sampleRoot.resolve root = .ok ["dev"]) :
    (ofSettings sampleRoot { root }).ScansRoot false ["dev"] "/dev" n where
  rules := by
    have hon : Tunables.kernel.evdevEnabled = false := by cbv
    exact congrArg (RuleTable.standard root) hon
  plain := hplain
  slashes := hslashes
  slashFree := by
    constructor <;> simp [ofSettings, sampleRoot, NoSlash]
  root := hroot
  directory := by
    have hdir : sampleRoot.node? ["dev"] = some .directory := by cbv
    exact hdir
  input content h := by
    have hinput : sampleRoot.node? ["dev", "input"] = some .directory := by cbv
    cases hinput.symm.trans h

theorem discover_finds_below_one_slash :
    (ofSettings sampleRoot { root := "/dev/" }).ScansRoot false ["dev"] "/dev" 1 ∧
    ∃ found, (ofSettings sampleRoot { root := "/dev/" }).discover = .ok found ∧
      "/dev/ukbd0" ∈ found ∧ "/dev/input/event3" ∈ found := by
  have hslashes : Path.EndsInSlashes "/dev/" "/dev" 1 := ⟨by decide, by decide⟩
  have hscans := scansRoot_sampleRoot (by simp [Plain]) hslashes (by cbv)
  obtain ⟨-, hshort⟩ := discover_finds hscans
  obtain ⟨found, hfound, -, hmem⟩ := hshort (by decide)
  refine ⟨hscans, found, hfound, (hmem _).mpr ⟨Nat.le_refl 1, ?_⟩,
    (hmem _).mpr ⟨Nat.le_refl 1, ?_⟩⟩
  · have hname : Numbered "ukbd" "ukbd0" := ⟨'0', [], by decide, by decide, by simp⟩
    exact .node ⟨by cbv, by cbv⟩ (by decide) (.ukbd rfl hname)
  · have hname : Numbered "event" "event3" := ⟨'3', [], by decide, by decide, by simp⟩
    exact .event ⟨by cbv, by cbv⟩ hname

theorem discover_misses_keyboard :
    sampleRoot.resolve "/dev//" = .ok ["dev"] ∧ sampleRoot.HasEntry ["dev"] "ukbd0" ∧
    ServesName false .keyboard "ukbd0" ∧
    (ofSettings sampleRoot { root := "/dev//" }).discover = .ok [] := by
  have hname : Numbered "ukbd" "ukbd0" := ⟨'0', [], by decide, by decide, by simp⟩
  have hroot : sampleRoot.resolve "/dev//" = .ok ["dev"] := by cbv
  refine ⟨hroot, ⟨by cbv, by cbv⟩, .ukbd rfl hname, ?_⟩
  have hslashes : Path.EndsInSlashes "/dev//" "/dev" 2 := ⟨by decide, by decide⟩
  have hscans := scansRoot_sampleRoot (by simp [Plain]) hslashes hroot
  obtain ⟨found, hfound, -, hmem⟩ := hscans.exists_discover (by decide)
  have hnone : found = [] := List.eq_nil_iff_forall_not_mem.mpr fun path hpath => by
    have htwo : 2 ≤ 1 := ((hmem path).mp hpath).1
    omega
  rw [hfound, hnone]

end Application
end InputUdev

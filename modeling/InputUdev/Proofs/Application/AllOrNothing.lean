import InputUdev.Proofs.Application.Blocks
import InputUdev.Proofs.Application.Scan
import InputUdev.Proofs.Settings.Reading

/-!
# All or nothing

A run fails when its settings cannot be loaded, when a scan cannot read one of its directories, or
when there is no path (`Arguments.Fails`). Main statement: the exit code is 1 just then and nothing
is printed; in all other runs it is 0, and the records of all paths are printed
(`Outcome.all_or_nothing`).
-/

namespace InputUdev

namespace Arguments

/-- The file that the settings of a run are read from: the one that is named, or else the user's if
there is one. -/
inductive SettingsFrom (host : Host) (a : Arguments) : String → Prop
  | named : a.config = some file → SettingsFrom host a file
  | usual : a.config = none → host.settingsFile = some file → host.files.hasPath file = true →
    SettingsFrom host a file

inductive Loads (host : Host) (a : Arguments) : Settings → Prop
  | file : a.SettingsFrom host file → Settings.FileGives host.files file s → Loads host a s
  | usual : (∀ file, ¬ a.SettingsFrom host file) → Loads host a .usual

/-- The classifier goes by the standard rules below the device root of the settings, with evdev on
if it is turned on by the arguments, or by the settings and the arguments say nothing. -/
structure Uses (host : Host) (a : Arguments) (s : Settings) (k : Classifier) : Prop where
  rules : k.rules = .standard s.root k.rules.evdevEnabled
  evdev : k.rules.evdevEnabled = true ↔ a.mode = some .on ∨ a.mode = none ∧ s.mode = .on
  capabilities : k.capabilities =
    EventSource.capabilities { files := host.files, devices := host.devices }
  tree : k.tree = .kernel
  virtualSysname : k.virtualSysname = s.virtualSysname

/-- The paths that a run finds, if it is to list devices. -/
inductive Finds (host : Host) (a : Arguments) (s : Settings) (k : Classifier) : List String → Prop
  | nothing : a.list = false → Finds host a s k []
  | listing : a.list = true → host.files.Listing k.rules s.root found → Finds host a s k found

/-- A reason for which a run fails. -/
inductive Fails (host : Host) (a : Arguments) : Prop
  | settings : a.SettingsFrom host file → (∀ s, ¬ Settings.FileGives host.files file s) →
    Fails host a
  | directory : a.Loads host s → a.list = true → ScansDir s.root dir → host.files.Unreadable dir →
    Fails host a
  | noPaths : a.Loads host s → a.Uses host s k → a.paths = [] → a.Finds host s k [] → Fails host a

/-- What a run goes by and finds if it does not fail. -/
structure Succeeds (host : Host) (a : Arguments) (s : Settings) (k : Classifier)
    (found : List String) : Prop where
  loads : a.Loads host s
  uses : a.Uses host s k
  finds : a.Finds host s k found
  readable : a.list = true → ∀ dir, ScansDir s.root dir → ¬ host.files.Unreadable dir
  paths_ne : a.paths ++ found ≠ []

variable {host : Host} {a : Arguments} {s s' : Settings} {k k' : Classifier}
  {file file' : String} {found : List String}

/-! ## Settings -/

theorem SettingsFrom.unique (h : a.SettingsFrom host file) (h' : a.SettingsFrom host file') :
    file' = file := by
  cases h with
  | named hfile =>
    cases h' with
    | named hfile' => exact Option.some.inj (hfile'.symm.trans hfile)
    | usual hnone => cases hnone.symm.trans hfile
  | usual hnone hfile =>
    cases h' with
    | named hfile' => cases hnone.symm.trans hfile'
    | usual _ hfile' => exact Option.some.inj (hfile'.symm.trans hfile)

theorem Loads.unique (h : a.Loads host s) (h' : a.Loads host s') : s' = s := by
  cases h with
  | file hfile hgives =>
    cases h' with
    | file hfile' hgives' =>
      obtain rfl := hfile.unique hfile'
      rw [← Settings.ofFile_eq_ok_iff] at hgives hgives'
      exact Except.ok.inj (hgives'.symm.trans hgives)
    | usual hnone => exact absurd hfile (hnone _)
  | usual hnone =>
    cases h' with
    | file hfile' => exact absurd hfile' (hnone _)
    | usual => rfl

/-- The settings with the mode of the command line in place of their own. -/
def withMode (a : Arguments) (s : Settings) : Settings := { s with mode := a.mode.getD s.mode }

theorem settingsFor_of_settingsFrom (h : a.SettingsFrom host file) :
    Application.settingsFor host a = (Settings.ofFile host.files file).map a.withMode := by
  cases h with
  | named hfile =>
    simp only [Application.settingsFor, hfile]
    cases Settings.ofFile host.files file <;> rfl
  | usual hnone hfile hpath =>
    simp only [Application.settingsFor, hnone, Settings.ofOptionalFile_of_hasPath hfile hpath]
    cases Settings.ofFile host.files file <;> rfl

theorem settingsFor_of_not_settingsFrom (h : ∀ file, ¬ a.SettingsFrom host file) :
    Application.settingsFor host a = .ok (a.withMode .usual) := by
  have hnone : a.config = none :=
    Option.eq_none_iff_forall_ne_some.mpr fun file hfile => h file (.named hfile)
  have husual : ∀ file, host.settingsFile = some file → host.files.hasPath file = false := by
    intro file hfile
    exact Bool.eq_false_iff.mpr fun hpath => h file (.usual hnone hfile hpath)
  simp only [Application.settingsFor, hnone, Settings.ofOptionalFile_of_not_hasPath husual]
  rfl

/-- The settings of a run are loaded, unless its settings file gives none. -/
theorem settingsFor_cases (host : Host) (a : Arguments) :
    (∃ file e, a.SettingsFrom host file ∧ (∀ s, ¬ Settings.FileGives host.files file s) ∧
      Application.settingsFor host a = .error e) ∨
    ∃ s, a.Loads host s ∧ Application.settingsFor host a = .ok (a.withMode s) := by
  by_cases hfrom : ∃ file, a.SettingsFrom host file
  · obtain ⟨file, hfrom⟩ := hfrom
    rw [settingsFor_of_settingsFrom hfrom]
    cases hfile : Settings.ofFile host.files file with
    | error e =>
      refine .inl ⟨file, e, hfrom, fun s hgives => ?_, rfl⟩
      rw [Settings.ofFile_eq_ok_iff.mpr hgives] at hfile
      cases hfile
    | ok s => exact .inr ⟨s, .file hfrom (Settings.ofFile_eq_ok_iff.mp hfile), rfl⟩
  · rw [not_exists] at hfrom
    exact .inr ⟨_, .usual hfrom, settingsFor_of_not_settingsFrom hfrom⟩

/-! ## The classifier -/

/-- The kernel at hand has no tunables. -/
theorem evdevEnabled_kernel_eq_true_iff :
    s.evdevEnabled .kernel = true ↔ s.mode = .on := by
  have hkernel : Tunables.kernel.evdevEnabled = false := by rfl
  rw [Settings.evdevEnabled]
  cases s.mode <;> simp [hkernel]

theorem uses_ofSettings :
    a.Uses host s (Application.ofSettings host.files (a.withMode s) host.devices).classifier where
  rules := rfl
  evdev := by
    have hon : (a.withMode s).mode = .on ↔ a.mode = some .on ∨ a.mode = none ∧ s.mode = .on := by
      cases hmode : a.mode <;> simp [withMode, hmode]
    exact evdevEnabled_kernel_eq_true_iff.trans hon
  capabilities := rfl
  tree := rfl
  virtualSysname := rfl

theorem Uses.unique (h : a.Uses host s k) (h' : a.Uses host s k') : k' = k := by
  have hon : k'.rules.evdevEnabled = k.rules.evdevEnabled :=
    Bool.eq_iff_iff.mpr (h'.evdev.trans h.evdev.symm)
  have hrules : k'.rules = k.rules := by rw [h'.rules, h.rules, hon]
  have hcapabilities := h'.capabilities.trans h.capabilities.symm
  have htree := h'.tree.trans h.tree.symm
  have hsysname := h'.virtualSysname.trans h.virtualSysname.symm
  cases k
  cases k'
  exact (Classifier.mk.injEq ..).mpr ⟨hrules, hcapabilities, htree, hsysname⟩

/-! ## Runs -/

/-- The lines of the records of some paths, with one empty line between two records. -/
def printed (k : Classifier) (paths : List String) : String :=
  textOf ([""].intercalate (paths.map k.block))

theorem pathsFor_eq (app : Application) (a : Arguments) :
    app.pathsFor a = (if a.list then app.discover else .ok []) >>= fun found =>
      if a.paths ++ found = [] then .error .noPaths else .ok (a.paths ++ found) := by
  have hempty (found : List String) : (a.paths ++ found).isEmpty = true ↔ a.paths ++ found = [] :=
    List.isEmpty_iff
  cases hlist : a.list with
  | false =>
    simp only [Application.pathsFor, hlist, Bool.false_eq_true, if_false, hempty]
    rfl
  | true =>
    simp only [Application.pathsFor, hlist, if_true, hempty]
    rfl

/-- If nothing is found, then nothing at all can be found. -/
theorem Finds.eq_nil (h : a.Finds host s k found) (hnil : a.Finds host s k []) : found = [] := by
  cases h with
  | nothing => rfl
  | listing hlist hlisting =>
    cases hnil with
    | nothing hnot => cases hlist.symm.trans hnot
    | listing _ hlisting' =>
      apply List.eq_nil_iff_forall_not_mem.mpr
      intro path hpath
      exact List.not_mem_nil ((hlisting'.mem_iff path).mpr ((hlisting.mem_iff path).mp hpath))

theorem Succeeds.not_fails (h : a.Succeeds host s k found) : ¬ a.Fails host := by
  intro hfails
  cases hfails with
  | settings hfrom hnone =>
    cases h.loads with
    | file hfrom' hgives =>
      obtain rfl := hfrom.unique hfrom'
      exact hnone s hgives
    | usual hnone => exact hnone _ hfrom
  | directory hloads hlist hdir hunreadable =>
    obtain rfl := h.loads.unique hloads
    exact h.readable hlist _ hdir hunreadable
  | noPaths hloads huses hpaths hfinds =>
    obtain rfl := h.loads.unique hloads
    obtain rfl := h.uses.unique huses
    apply h.paths_ne
    rw [hpaths, h.finds.eq_nil hfinds]
    rfl

/-- The scan of a run fails, or it finds some paths. -/
theorem scan_cases {app : Application} (hfiles : app.files = host.files)
    (hroot : app.settings.root = s.root) (a : Arguments) :
    (∃ dir e, a.list = true ∧ ScansDir s.root dir ∧ host.files.Unreadable dir ∧
      (if a.list then app.discover else .ok []) = .error e) ∨
    (a.list = true → ∀ dir, ScansDir s.root dir → ¬ host.files.Unreadable dir) ∧
      ∃ found, a.Finds host s app.classifier found ∧
        (if a.list then app.discover else .ok []) = .ok found := by
  cases hlist : a.list with
  | false => exact .inr ⟨nofun, [], .nothing hlist, rfl⟩
  | true =>
    rw [← hfiles, ← hroot]
    rcases app.discover_cases with ⟨dir, e, hdir, hunreadable, he⟩ |
      ⟨hreadable, found, hfound, hlisting⟩
    · exact .inl ⟨dir, e, rfl, hdir, hunreadable, he⟩
    · rw [hfiles, hroot] at hlisting
      exact .inr ⟨fun _ => hreadable, found, .listing hlist hlisting, hfound⟩

/-- A run fails for some reason, or it prints what it is to print. -/
theorem run_cases (host : Host) (a : Arguments) :
    (a.Fails host ∧ ∃ e, a.run host = .error e) ∨
    ∃ s k found, a.Succeeds host s k found ∧ a.run host = .ok (printed k (a.paths ++ found)) := by
  have hrun : a.run host = ((Application.settingsFor host a).mapError (.settings a.config)) >>=
      fun settings =>
        let app := Application.ofSettings host.files settings host.devices
        app.pathsFor a >>= fun paths => .ok (app.output paths) := rfl
  rcases settingsFor_cases host a with ⟨file, e, hfrom, hnone, he⟩ | ⟨s, hloads, hs⟩
  · exact .inl ⟨.settings hfrom hnone, _, by rw [hrun, he]; rfl⟩
  · generalize happ : Application.ofSettings host.files (a.withMode s) host.devices = app
    have huses : a.Uses host s app.classifier := happ ▸ uses_ofSettings
    have hpaths : a.run host = app.pathsFor a >>= fun paths => .ok (app.output paths) := by
      rw [hrun, hs, ← happ]
      rfl
    rw [hpaths, pathsFor_eq]
    -- the settings are loaded, so that only the scan and the lack of paths can fail
    have hfiles : app.files = host.files := by rw [← happ]; rfl
    have hroot : app.settings.root = s.root := by rw [← happ]; rfl
    rcases scan_cases hfiles hroot a with ⟨dir, e, hlist, hdir, hunreadable, he⟩ |
      ⟨hreadable, found, hfinds, hfound⟩
    · exact .inl ⟨.directory hloads hlist hdir hunreadable, e, by rw [he]; rfl⟩
    · rw [hfound]
      by_cases hne : a.paths ++ found = []
      · obtain ⟨hnone, rfl⟩ := List.append_eq_nil_iff.mp hne
        refine .inl ⟨.noPaths hloads huses hnone hfinds, .noPaths, ?_⟩
        simp only [bind, Except.bind, hne, if_true]
      · refine .inr ⟨s, app.classifier, found, ⟨hloads, huses, hfinds, hreadable, hne⟩, ?_⟩
        simp only [bind, Except.bind, hne, if_false, app.output_eq, printed]

end Arguments

namespace Outcome

variable {host : Host} {arguments : List String} {a : Arguments}

theorem ofArguments_of_ok {output : String} (h : CommandLine.read arguments = .ok a)
    (hrun : a.run host = .ok output) : ofArguments host arguments = { output } := by
  rw [ofArguments, h]
  simp only [hrun]

theorem ofArguments_of_error {e : ApplicationError} (h : CommandLine.read arguments = .ok a)
    (hrun : a.run host = .error e) :
    ofArguments host arguments = { exitCode := 1, errors := e.report } := by
  rw [ofArguments, h]
  simp only [hrun]

/-- With arguments that are understood, the exit code is 1 if there is a reason to fail, and then
nothing is printed. Else it is 0 and the records of all paths are printed, those that are named
before those that are found, with one empty line between two records and none within a record. There
is one way to print a record. -/
theorem all_or_nothing (h : CommandLine.read arguments = .ok a) :
    ((ofArguments host arguments).exitCode = 1 ↔ a.Fails host) ∧
    (a.Fails host → (ofArguments host arguments).output = "") ∧
    (¬ a.Fails host → (ofArguments host arguments).exitCode = 0 ∧
      ∃ s k found blocks, a.Loads host s ∧ a.Uses host s k ∧ a.Finds host s k found ∧
        List.Forall₂ (fun path block => (k.deviceFor path .add).device.Prints block)
          (a.paths ++ found) blocks ∧
        (ofArguments host arguments).output = textOf ([""].intercalate blocks)) ∧
    ∀ d : Device, ∃ block, (∀ block', d.Prints block' ↔ block' = block) ∧ "" ∉ block := by
  have hblock (d : Device) : ∃ block, (∀ block', d.Prints block' ↔ block' = block) ∧ "" ∉ block :=
    ⟨d.lines, fun _ => Device.prints_iff, (Device.prints_iff.mpr rfl).not_mem_empty⟩
  rcases a.run_cases host with ⟨hfails, e, he⟩ | ⟨s, k, found, hsucceeds, houtput⟩
  · rw [ofArguments_of_error h he]
    exact ⟨iff_of_true rfl hfails, fun _ => rfl, fun hnot => absurd hfails hnot, hblock⟩
  · rw [ofArguments_of_ok h houtput]
    have hexit : (0 : UInt8) ≠ 1 := by decide
    refine ⟨iff_of_false hexit hsucceeds.not_fails,
      fun hfails => absurd hfails hsucceeds.not_fails, fun _ => ⟨rfl, ?_⟩, hblock⟩
    exact ⟨s, k, found, (a.paths ++ found).map k.block, hsucceeds.loads, hsucceeds.uses,
      hsucceeds.finds, Classifier.forall₂_prints_iff.mpr rfl, rfl⟩

/-- A device root with a file where the directory of event devices would be. -/
def fileInPlaceOfInput : Host where
  files := {
    entries := [(["dev"], .directory), (["dev", "ukbd0"], .file .empty),
      (["dev", "input"], .file .empty)] }

theorem fails_fileInPlaceOfInput :
    Arguments.Fails fileInPlaceOfInput { list := true, paths := ["/dev/ukbd0"] } := by
  have hlist : fileInPlaceOfInput.files.list "/dev/input" = .error .notADirectory := by cbv
  refine .directory (.usual fun file hfrom => ?_) rfl .input ⟨hlist, by decide⟩
  cases hfrom with
  | named hfile | usual _ hfile => cases hfile

/-- A device root with an event device that is a mouse, beside the console mouse. -/
def mice : Host where
  files := {
    entries := [(["dev"], .directory), (["dev", "sysmouse"], .file .empty),
      (["dev", "input"], .directory), (["dev", "input", "event3"], .file .empty)] }
  devices names :=
    if names = ["dev", "input", "event3"] then
      some {
        name := some "Optical Mouse, Black"
        phys := some "usb-1/input0"
        id := ⟨3, 0x46d, 0xc077, 0x111⟩
        keys := some [0x110, 0x111, 0x112]
        relAxes := some [0, 1] }
    else none

theorem not_settingsFrom_mice (file : String) :
    ¬ Arguments.SettingsFrom mice { paths := ["/dev/input/event3", "/dev/sysmouse"] } file := by
  intro hfrom
  cases hfrom with
  | named hfile | usual _ hfile => cases hfile

theorem not_fails_mice :
    ¬ Arguments.Fails mice { paths := ["/dev/input/event3", "/dev/sysmouse"] } := by
  intro hfails
  cases hfails with
  | settings hfrom => exact not_settingsFrom_mice _ hfrom
  | directory _ hlist => cases hlist
  | noPaths _ _ hpaths => cases hpaths

/-- What is printed of the two mice. -/
def miceBlocks : List (List String) := [
  ["P: /dev/input/event3", "N: /dev/input/event3", "E: SUBSYSTEM=input", "E: ID_INPUT=1",
    "E: ID_INPUT_MOUSE=1", "  parent: usb-1/input0", "    E: NAME=Optical Mouse",
    "    E: PRODUCT=3/46d/c077/111", "    A: name=Optical Mouse"],
  ["P: /dev/sysmouse", "N: /dev/sysmouse", "E: SUBSYSTEM=input", "E: ID_INPUT=1",
    "E: ID_INPUT_MOUSE=1", "  parent: sysmouse", "    E: NAME=System mouse",
    "    E: PRODUCT=6/2/1/0", "    A: name=System mouse"]]

theorem blocks_mice :
    ["/dev/input/event3", "/dev/sysmouse"].map
      (Application.ofSettings mice.files .usual mice.devices).classifier.block = miceBlocks := by
  decide +kernel

/-- A path that is named is not printed if the scan fails. Without a scan, the two mice are printed
with their parents. -/
theorem all_or_nothing_unreadable_input_and_mice :
    (CommandLine.read ["/dev/ukbd0", "--list"] = .ok { list := true, paths := ["/dev/ukbd0"] } ∧
      (ofArguments fileInPlaceOfInput ["/dev/ukbd0", "--list"]).exitCode = 1 ∧
      (ofArguments fileInPlaceOfInput ["/dev/ukbd0", "--list"]).output = "") ∧
    CommandLine.read ["/dev/input/event3", "/dev/sysmouse"] =
      .ok { paths := ["/dev/input/event3", "/dev/sysmouse"] } ∧
    (ofArguments mice ["/dev/input/event3", "/dev/sysmouse"]).exitCode = 0 ∧
    (ofArguments mice ["/dev/input/event3", "/dev/sysmouse"]).output =
      textOf ([""].intercalate miceBlocks) := by
  have hread : CommandLine.read ["/dev/ukbd0", "--list"] =
      .ok { list := true, paths := ["/dev/ukbd0"] } := by cbv
  have hread' : CommandLine.read ["/dev/input/event3", "/dev/sysmouse"] =
      .ok { paths := ["/dev/input/event3", "/dev/sysmouse"] } := by cbv
  obtain ⟨hexit, hnothing, -, -⟩ := @all_or_nothing fileInPlaceOfInput _ _ hread
  obtain ⟨-, -, hprinted, -⟩ := @all_or_nothing mice _ _ hread'
  obtain ⟨hzero, s, k, found, blocks, hloads, huses, hfinds, hblocks, houtput⟩ :=
    hprinted not_fails_mice
  refine ⟨⟨hread, hexit.mpr fails_fileInPlaceOfInput, hnothing fails_fileInPlaceOfInput⟩, hread',
    hzero, ?_⟩
  obtain rfl := (Arguments.Loads.usual not_settingsFrom_mice).unique hloads
  obtain rfl := Arguments.uses_ofSettings.unique huses
  obtain rfl := hfinds.eq_nil (.nothing rfl)
  rw [houtput, Classifier.forall₂_prints_iff.mp hblocks]
  exact congrArg (fun blocks => textOf ([""].intercalate blocks)) blocks_mice

end Outcome
end InputUdev

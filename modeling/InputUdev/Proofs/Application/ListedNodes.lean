import InputUdev.Proofs.Application.AllOrNothing
import InputUdev.Proofs.Application.Discovery
import InputUdev.Proofs.Classifier.Additivity
import InputUdev.Proofs.CommandLine.Spelling

/-!
# Listed nodes

The scan of a listing, the label of a device node and the choice of its handler each look up the
rule for the same path. So the run that names what a listing found prints what the listing printed,
and each path that was found is printed as an input device, with the marks of its class unless it is
probed for one (`Outcome.listing_agrees_with_naming`).
-/

namespace InputUdev

/-! ## The block of a device node -/

theorem DeviceClass.markers_ne_nil {c : DeviceClass} (hc : c ≠ .none) : c.markers ≠ [] := by
  cases c with
  | none => exact absurd rfl hc
  | keyboard | mouse | touchpad | touchscreen | joystick | tablet => exact List.cons_ne_nil _ _

namespace Device

theorem exists_lines_eq (d : Device) :
    ∃ before after, d.lines = before ++ entryLines "E: " d.properties ++ after :=
  ⟨("P: " ++ d.syspath) :: d.devnode.toList.map ("N: " ++ ·) ++ ["E: SUBSYSTEM=" ++ d.subsystem],
    d.ancestors.flatMap (·.parentLines), by simp [lines]⟩

theorem mem_lines_subsystem (d : Device) : "E: SUBSYSTEM=" ++ d.subsystem ∈ d.lines := by
  simp [lines]

/-- The only properties of a device that had none are its marks. -/
theorem toList_properties_outfit_bare {d : Device} (h : d.properties = .empty) (c : DeviceClass)
    (parent? : Option ParentInfo) :
    (d.outfit c parent?).properties.toList = (marks c).map (·, "1") := by
  have hmark : (d.mark c).properties.toList = (marks c).map (·, "1") := by
    rw [toList_properties_mark, h]
    simp [Entries.empty, Entries.keys]
  cases parent? <;> exact hmark

end Device

namespace Classifier

variable {k : Classifier} {path : String} {h : Handler} {c : DeviceClass}
  {parent? : Option ParentInfo} {root : String} {on : Bool}

/-- The lines of a class: the mark of all input devices, and then those of the class. -/
def markLines (c : DeviceClass) : List String :=
  "E: ID_INPUT=1" :: c.markers.map ("E: " ++ · ++ "=1")

/-- A node that is shown as an input device. Its block has the lines of a class, unless the handler
has to probe the node. -/
structure ShowsInput (k : Classifier) (path : String) : Prop where
  subsystem : "E: SUBSYSTEM=input" ∈ k.block path
  handled : ∃ h, k.rules.handlerFor path = some h
  classified : k.rules.handlerFor path ≠ some .evdev →
    ∃ c before after, c.markers ≠ [] ∧ (k.deviceFor path .add).verdict = some c ∧
      k.block path = before ++ markLines c ++ after

theorem subsystem_dispatch (k : Classifier) (d : Device) :
    (k.dispatch d).device.subsystem = d.subsystem := by
  rcases k.dispatch_cases d with ⟨-, hdevice⟩ | ⟨h, c, parent?, -, -, -, hdevice⟩
  · rw [hdevice]
  · rw [hdevice, (Device.marked_outfit parent?).subsystem]

theorem mem_block_subsystem (k : Classifier) (path : String) :
    "E: SUBSYSTEM=" ++ k.rules.subsystemFor path ∈ k.block path := by
  have hmem := Device.mem_lines_subsystem (k.dispatch (.ofNode k.rules path .add)).device
  rw [subsystem_dispatch] at hmem
  exact hmem

theorem entryLines_marks (c : DeviceClass) :
    ((Device.marks c).map (·, "1")).map (fun (key, value) => "E: " ++ key ++ "=" ++ value) =
      markLines c := by
  cases c <;> decide

theorem deviceFor_of_finds (hh : k.rules.handlerFor path = some h)
    (hfinds : Finds k (.ofNode k.rules path .add) h c parent?) :
    (k.deviceFor path .add).verdict = some c ∧
      (k.deviceFor path .add).device = (Device.ofNode k.rules path .add).outfit c parent? :=
  @dispatch_of_finds k (.ofNode k.rules path .add) h c parent? hh hfinds

theorem block_of_finds (hh : k.rules.handlerFor path = some h)
    (hfinds : Finds k (.ofNode k.rules path .add) h c parent?) :
    ∃ before after, k.block path = before ++ markLines c ++ after := by
  obtain ⟨-, hdevice⟩ := deviceFor_of_finds hh hfinds
  have hbare : (Device.ofNode k.rules path .add).properties = .empty := rfl
  have hmarks := Device.toList_properties_outfit_bare hbare c parent?
  obtain ⟨before, after, hlines⟩ :=
    ((Device.ofNode k.rules path .add).outfit c parent?).exists_lines_eq
  refine ⟨before, after, ?_⟩
  rw [block, hdevice, hlines, entryLines, hmarks, entryLines_marks]

theorem showsInput_of_subsystemFor_ne_unknown (hrules : k.rules = .standard root on)
    (hpath : k.rules.subsystemFor path ≠ "unknown") : k.ShowsInput path := by
  obtain ⟨h, hh⟩ : ∃ h, k.rules.handlerFor path = some h := by
    rw [hrules, RuleTable.subsystemFor_standard, ← hrules] at hpath
    cases hh : k.rules.handlerFor path with
    | none => simp [hh] at hpath
    | some h => exact ⟨h, rfl⟩
  have hsubsystem : k.rules.subsystemFor path = "input" := by
    rw [hrules, RuleTable.subsystemFor_standard, ← hrules, hh]
    rfl
  refine ⟨?_, ⟨h, hh⟩, fun hevdev => ?_⟩
  · have hmem := k.mem_block_subsystem path
    rw [hsubsystem] at hmem
    exact hmem
  · have hne : h ≠ .evdev := fun heq => hevdev (heq ▸ hh)
    obtain ⟨c, parent?, hfinds⟩ := @exists_finds_of_ne_evdev k (.ofNode k.rules path .add) h hne
    obtain ⟨before, after, hblock⟩ := block_of_finds hh hfinds
    exact ⟨c, before, after, DeviceClass.markers_ne_nil hfinds.ne_none,
      (deviceFor_of_finds hh hfinds).1, hblock⟩

end Classifier

/-! ## Naming what was found -/

namespace Arguments

/-- The arguments that name the paths found by a listing behind the others, in place of it. -/
def naming (a : Arguments) (found : List String) : Arguments :=
  { a with list := false, paths := a.paths ++ found }

variable {host : Host} {a a' : Arguments} {s : Settings} {k : Classifier} {file : String}
  {found : List String}

theorem SettingsFrom.congr (hconfig : a'.config = a.config) (h : a.SettingsFrom host file) :
    a'.SettingsFrom host file := by
  cases h with
  | named hfile => exact .named (hconfig.trans hfile)
  | usual hnone hfile hpath => exact .usual (hconfig.trans hnone) hfile hpath

theorem Loads.congr (hconfig : a'.config = a.config) (h : a.Loads host s) : a'.Loads host s := by
  cases h with
  | file hfrom hgives => exact .file (hfrom.congr hconfig) hgives
  | usual hnone => exact .usual fun file hfrom => hnone file (hfrom.congr hconfig.symm)

theorem Uses.congr (hmode : a'.mode = a.mode) (h : a.Uses host s k) : a'.Uses host s k where
  rules := h.rules
  evdev := by rw [hmode, h.evdev]
  capabilities := h.capabilities
  tree := h.tree
  virtualSysname := h.virtualSysname

theorem config_naming (a : Arguments) (found : List String) :
    (a.naming found).config = a.config := rfl

theorem mode_naming (a : Arguments) (found : List String) : (a.naming found).mode = a.mode := rfl

theorem Succeeds.naming (h : a.Succeeds host s k found) :
    (a.naming found).Succeeds host s k [] where
  loads := h.loads.congr (a.config_naming found)
  uses := h.uses.congr (a.mode_naming found)
  finds := .nothing rfl
  readable := nofun
  paths_ne := by
    rw [List.append_nil]
    exact h.paths_ne

/-- A run that lists nothing prints the records of the paths that are named. -/
theorem run_of_succeeds (hlist : a.list = false) (h : a.Succeeds host s k []) :
    a.run host = .ok (printed k a.paths) := by
  rcases a.run_cases host with ⟨hfails, -⟩ | ⟨s', k', found', h', hrun⟩
  · exact absurd hfails h.not_fails
  · -- the run has the settings and the classifier it succeeds with, for there are no others
    obtain rfl := h.loads.unique h'.loads
    obtain rfl := h.uses.unique h'.uses
    rw [hrun, h'.finds.eq_nil (.nothing hlist), List.append_nil]

end Arguments

namespace Outcome

variable {host : Host} {arguments : List String} {a : Arguments}

theorem exists_succeeds (h : CommandLine.read arguments = .ok a)
    (hexit : (ofArguments host arguments).exitCode = 0) :
    ∃ s k found, a.Succeeds host s k found ∧
      (ofArguments host arguments).output = Arguments.printed k (a.paths ++ found) := by
  rcases a.run_cases host with ⟨-, e, he⟩ | ⟨s, k, found, hsucceeds, hrun⟩
  · rw [ofArguments_of_error h he] at hexit
    have hne : (1 : UInt8) ≠ 0 := by decide
    exact absurd hexit hne
  · exact ⟨s, k, found, hsucceeds, by rw [ofArguments_of_ok h hrun]⟩

theorem exitCode_of_not_fails (h : CommandLine.read arguments = .ok a) (hnot : ¬ a.Fails host) :
    (ofArguments host arguments).exitCode = 0 := by
  rcases a.run_cases host with ⟨hfails, -⟩ | ⟨s, k, found, -, hrun⟩
  · exact absurd hfails hnot
  · rw [ofArguments_of_ok h hrun]

/-- If a listing succeeds, then so does each run that names the found paths instead, and it prints
the same. There are arguments for such a run, and each found path is shown as an input device. -/
theorem listing_agrees_with_naming (h : CommandLine.read arguments = .ok a) (hlist : a.list = true)
    (hexit : (ofArguments host arguments).exitCode = 0) :
    ∃ s k found, a.Loads host s ∧ a.Uses host s k ∧ host.files.Listing k.rules s.root found ∧
      (ofArguments host arguments).output = Arguments.printed k (a.paths ++ found) ∧
      CommandLine.read (a.naming found).spelled = .ok (a.naming found) ∧
      (∀ again, CommandLine.read again = .ok (a.naming found) →
        (ofArguments host again).exitCode = (ofArguments host arguments).exitCode ∧
          (ofArguments host again).output = (ofArguments host arguments).output) ∧
      ∀ path ∈ found, k.ShowsInput path := by
  obtain ⟨s, k, found, hsucceeds, houtput⟩ := exists_succeeds h hexit
  have hlisting : host.files.Listing k.rules s.root found := by
    cases hsucceeds.finds with
    | nothing hnot => cases hlist.symm.trans hnot
    | listing _ hlisting => exact hlisting
  have hconfig : (a.naming found).config ≠ some "" := by
    rw [Arguments.config_naming]
    exact CommandLine.config_ne_of_read h
  refine ⟨s, k, found, hsucceeds.loads, hsucceeds.uses, hlisting, houtput,
    CommandLine.read_spelled hconfig, fun again hagain => ?_, fun path hpath => ?_⟩
  · have hrun := Arguments.run_of_succeeds rfl hsucceeds.naming
    rw [ofArguments_of_ok hagain hrun, hexit, houtput]
    exact ⟨rfl, rfl⟩
  · -- the scan has asked the rules of the classifier for the subsystem of this very path
    obtain ⟨dir, -, hclaimed⟩ := (hlisting.mem_iff path).mp hpath
    obtain ⟨-, -, hunknown⟩ := hclaimed
    exact Classifier.showsInput_of_subsystemFor_ne_unknown hsucceeds.uses.rules hunknown

theorem not_settingsFrom_sampleRoot (file : String) :
    ¬ Arguments.SettingsFrom { files := Application.sampleRoot }
      { list := true, paths := ["/dev/ukbd0"] } file := by
  intro hfrom
  cases hfrom with
  | named hfile | usual _ hfile => cases hfile

theorem not_fails_sampleRoot :
    ¬ Arguments.Fails { files := Application.sampleRoot }
      { list := true, paths := ["/dev/ukbd0"] } := by
  have hroot : Application.sampleRoot.list "/dev" = .ok ["ukbd0", "input"] := by cbv
  have hinput : Application.sampleRoot.list "/dev/input" = .ok ["event3"] := by cbv
  intro hfails
  cases hfails with
  | settings hfile => exact not_settingsFrom_sampleRoot _ hfile
  | directory hloads _ hdir hunreadable =>
    cases hloads with
    | file hfile => exact not_settingsFrom_sampleRoot _ hfile
    | usual =>
      obtain ⟨hlist, -⟩ := hunreadable
      cases hdir with
      | root => cases hroot.symm.trans hlist
      | input => cases hinput.symm.trans hlist
  | noPaths _ _ hpaths => cases hpaths

/-- An event device that a listing finds beside a path that was named. -/
theorem listing_agrees_with_naming_sampleRoot :
    CommandLine.read ["/dev/ukbd0", "--list"] = .ok { list := true, paths := ["/dev/ukbd0"] } ∧
    (ofArguments { files := Application.sampleRoot } ["/dev/ukbd0", "--list"]).exitCode = 0 ∧
    ∃ k found, "/dev/input/event3" ∈ found ∧ k.ShowsInput "/dev/input/event3" ∧
      (ofArguments { files := Application.sampleRoot } ["/dev/ukbd0", "--list"]).output =
        Arguments.printed k ("/dev/ukbd0" :: found) := by
  have hread : CommandLine.read ["/dev/ukbd0", "--list"] =
      .ok { list := true, paths := ["/dev/ukbd0"] } := by cbv
  have hexit := exitCode_of_not_fails hread not_fails_sampleRoot
  obtain ⟨s, k, found, hloads, huses, hlisting, houtput, -, -, hshown⟩ :=
    listing_agrees_with_naming hread rfl hexit
  obtain rfl : s = .usual := (Arguments.Loads.usual not_settingsFrom_sampleRoot).unique hloads
  have hname : Numbered "input/event" "input/event3" := ⟨'3', [], by decide, by decide, by simp⟩
  have hslashes : Path.EndsInSlashes "/dev" "/dev" 0 := ⟨by decide, by decide⟩
  have hclaims : k.rules.subsystemFor (Path.join "/dev" "input/event3") ≠ "unknown" := by
    rw [huses.rules]
    have hplain : Glob.Plain "/dev".toList := by simp [Glob.Plain]
    exact (RuleTable.subsystemFor_join_iff hplain hslashes (by decide)).mpr
      ⟨Nat.zero_le 1, .evdev, .event hname⟩
  have hlist : Application.sampleRoot.list "/dev/input" = .ok ["event3"] := by cbv
  have hevent : "/dev/input/event3" ∈ found :=
    (hlisting.mem_iff _).mpr ⟨_, .input, .intro hlist List.mem_cons_self hclaims⟩
  exact ⟨hread, hexit, k, found, hevent, hshown _ hevent, houtput⟩

end Outcome
end InputUdev

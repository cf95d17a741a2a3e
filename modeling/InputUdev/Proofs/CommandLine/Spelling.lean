import InputUdev.CommandLine
import Mathlib.Data.List.TakeDrop
import Mathlib.Data.List.TakeWhile

/-!
# Writing arguments

`Arguments.spelled` writes arguments with the options first and all paths after `--`. Reading gives
the arguments back (`CommandLine.read_spelled`), but for an empty file name, which no reading
accepts (`CommandLine.config_ne_of_read`).
-/

namespace InputUdev

/-- The word for an evdev mode on the command line. -/
def EvdevMode.word : EvdevMode → String
  | auto => "auto"
  | on => "on"
  | off => "off"

/-- The options, with their values attached, and then the paths, which are read as such whatever
they look like. -/
def Arguments.spelled (a : Arguments) : List String :=
  (a.config.map ("--config=" ++ ·)).toList ++ (a.mode.map ("--evdev=" ++ ·.word)).toList ++
    (if a.list then ["--list"] else []) ++ (if a.verbose then ["--verbose"] else []) ++
    "--" :: a.paths

namespace CommandLine

namespace Reading

variable {r : Reading}

/-- The reading is at an option: no value is outstanding, and `--` has not been read. -/
structure AtOption (r : Reading) : Prop where
  pending : r.pending = none
  pathsOnly : r.pathsOnly = false

theorem AtOption.step_long (h : r.AtOption) {argument : String} {text : List Char}
    (hargument : argument.toList = '-' :: '-' :: text) (htext : text ≠ []) :
    r.step argument = r.readLong text := by
  obtain ⟨c, cs, rfl⟩ := List.exists_cons_of_ne_nil htext
  rw [step, h.pathsOnly, if_neg Bool.false_ne_true, h.pending, hargument]
  rfl

theorem readLong_name {s : Switch} {name : List Char} (hname : '=' ∉ name)
    (hs : Switch.all.find? (·.long == String.ofList name) = some s) :
    r.readLong name = r.apply s none := by
  have hall : ∀ c ∈ name, (c != '=') = true := fun c hc => by
    simpa using ne_of_mem_of_not_mem hc hname
  simp [readLong, List.span_eq_takeWhile_dropWhile, List.takeWhile_eq_self_iff.mpr hall,
    List.dropWhile_eq_nil_iff.mpr hall, hs]

theorem readLong_value {s : Switch} {name : List Char} (hname : '=' ∉ name)
    (hs : Switch.all.find? (·.long == String.ofList name) = some s) (value : List Char) :
    r.readLong (name ++ '=' :: value) = r.apply s (some (String.ofList value)) := by
  have hall : ∀ c ∈ name, (c != '=') = true := fun c hc => by
    simpa using ne_of_mem_of_not_mem hc hname
  simp [readLong, List.span_eq_takeWhile_dropWhile, List.takeWhile_append_of_pos hall,
    List.dropWhile_append_of_pos hall, hs]

theorem AtOption.step_config (h : r.AtOption) (hnone : r.arguments.config = none) {file : String}
    (hfile : file ≠ "") :
    r.step ("--config=" ++ file) =
      .ok { r with arguments := { r.arguments with config := some file } } := by
  have htext : ("--config=" ++ file).toList =
      '-' :: '-' :: ("config".toList ++ '=' :: file.toList) := by
    simp
  have hs : Switch.all.find? (·.long == String.ofList "config".toList) = some .config := by decide
  rw [h.step_long htext (by simp), readLong_value (by decide) hs]
  simp [apply, Switch.valueName?, setValue, hnone, hfile, h.pending]

theorem AtOption.step_mode (h : r.AtOption) (hnone : r.arguments.mode = none) (mode : EvdevMode) :
    r.step ("--evdev=" ++ mode.word) =
      .ok { r with arguments := { r.arguments with mode := some mode } } := by
  have htext : ("--evdev=" ++ mode.word).toList =
      '-' :: '-' :: ("evdev".toList ++ '=' :: mode.word.toList) := by
    simp
  have hs : Switch.all.find? (·.long == String.ofList "evdev".toList) = some .mode := by decide
  have hword : modeOf? mode.word = some mode := by cases mode <;> rfl
  rw [h.step_long htext (by simp), readLong_value (by decide) hs]
  simp [apply, Switch.valueName?, setValue, hnone, hword, h.pending]

theorem AtOption.step_list (h : r.AtOption) (hnot : r.arguments.list = false) :
    r.step "--list" = .ok { r with arguments := { r.arguments with list := true } } := by
  have htext : "--list".toList = '-' :: '-' :: "list".toList := by decide
  have hs : Switch.all.find? (·.long == String.ofList "list".toList) = some .list := by decide
  rw [h.step_long htext (by decide), readLong_name (by decide) hs]
  simp [apply, Switch.valueName?, turnOn, hnot]

theorem AtOption.step_verbose (h : r.AtOption) (hnot : r.arguments.verbose = false) :
    r.step "--verbose" = .ok { r with arguments := { r.arguments with verbose := true } } := by
  have htext : "--verbose".toList = '-' :: '-' :: "verbose".toList := by decide
  have hs : Switch.all.find? (·.long == String.ofList "verbose".toList) = some .verbose := by decide
  rw [h.step_long htext (by decide), readLong_name (by decide) hs]
  simp [apply, Switch.valueName?, turnOn, hnot]

theorem AtOption.step_dashes (h : r.AtOption) :
    r.step "--" = .ok { r with pathsOnly := true } := by
  have hdashes : "--".toList = ['-', '-'] := by decide
  rw [step, h.pathsOnly, if_neg Bool.false_ne_true, h.pending, hdashes]
  rfl

theorem foldlM_step_paths (h : r.pathsOnly = true) (paths : List String) :
    paths.foldlM step r =
      .ok { r with arguments := { r.arguments with paths := r.arguments.paths ++ paths } } := by
  induction paths generalizing r with
  | nil =>
    rw [List.append_nil]
    rfl
  | cons path paths ih =>
    have hstep : r.step path = .ok (r.addPath path) := by rw [step, if_pos h]
    have hrest : (path :: paths).foldlM step r = paths.foldlM step (r.addPath path) := by
      rw [List.foldlM_cons, hstep]
      rfl
    rw [hrest, @ih (r.addPath path) h]
    simp [addPath]

/-! ## What a reading accepts -/

/-- The settings file that was read has a name. -/
def Named (r : Reading) : Prop := r.arguments.config ≠ some ""

variable {r' : Reading}

theorem named_of_setValue {s : Switch} {value : String} (h : r.Named)
    (hr' : r.setValue s value = .ok r') : r'.Named := by
  cases s with
  | config =>
    rw [setValue] at hr'
    split at hr'
    · cases hr'
    · split at hr'
      · cases hr'
      · rename_i hvalue
        cases hr'
        simpa [Named] using hvalue
  | mode =>
    rw [setValue] at hr'
    split at hr'
    · cases hr'
    · split at hr'
      · cases hr'
      · cases hr'
        exact h
  | list | verbose | help | version => cases hr'

theorem named_of_turnOn {s : Switch} (h : r.Named) (hr' : r.turnOn s = .ok r') : r'.Named := by
  cases s with
  | list | verbose =>
    rw [turnOn] at hr'
    split at hr'
    · cases hr'
    · cases hr'
      exact h
  | config | mode | help | version => cases hr'

theorem named_of_apply {s : Switch} {value : Option String} (h : r.Named)
    (hr' : r.apply s value = .ok r') : r'.Named := by
  unfold apply at hr'
  split at hr'
  · exact named_of_turnOn h hr'
  · cases hr'
  · exact named_of_setValue h hr'
  · cases hr'
    exact h

theorem named_of_readLong {text : List Char} (h : r.Named) (hr' : r.readLong text = .ok r') :
    r'.Named := by
  simp only [readLong] at hr'
  split at hr'
  · cases hr'
  · exact named_of_apply h hr'

theorem named_of_readShort {text : List Char} (h : r.Named) (hr' : r.readShort text = .ok r') :
    r'.Named := by
  induction text generalizing r with
  | nil =>
    cases hr'
    exact h
  | cons c rest ih =>
    rw [readShort] at hr'
    split at hr'
    · cases hr'
    · rename_i s _
      split at hr'
      · exact named_of_apply h hr'
      · cases hon : r.turnOn s with
        | error e => simp [hon, bind, Except.bind] at hr'
        | ok middle =>
          rw [hon] at hr'
          exact ih (named_of_turnOn h hon) hr'

theorem named_of_step {argument : String} (h : r.Named) (hr' : r.step argument = .ok r') :
    r'.Named := by
  rw [step] at hr'
  split at hr'
  · cases hr'
    exact h
  · split at hr'
    · cases hr'
    · exact named_of_setValue h hr'
    · cases hr'
      exact h
    · exact named_of_readLong h hr'
    · exact named_of_readShort h hr'
    · cases hr'
      exact h

theorem named_of_foldlM_step {arguments : List String} (h : r.Named)
    (hr' : arguments.foldlM step r = .ok r') : r'.Named := by
  induction arguments generalizing r with
  | nil =>
    cases hr'
    exact h
  | cons argument arguments ih =>
    rw [List.foldlM_cons] at hr'
    cases hstep : r.step argument with
    | error e => simp [hstep, bind, Except.bind] at hr'
    | ok middle =>
      rw [hstep] at hr'
      exact ih (named_of_step h hstep) hr'

end Reading

variable {a : Arguments}

theorem config_ne_of_read {arguments : List String} (h : read arguments = .ok a) :
    a.config ≠ some "" := by
  rw [read] at h
  cases hr : arguments.foldlM Reading.step {} with
  | error e => simp [hr, bind, Except.bind] at h
  | ok r =>
    have hempty : Reading.Named {} := by simp [Reading.Named]
    have hnamed : r.Named := Reading.named_of_foldlM_step hempty hr
    simp only [hr, bind, Except.bind] at h
    split at h
    · cases h
      exact hnamed
    · cases h

/-! ## Reading what was written -/

theorem foldlM_step_spelled (h : a.config ≠ some "") :
    a.spelled.foldlM Reading.step {} = .ok { arguments := a, pathsOnly := true } := by
  obtain ⟨config, mode, list, verbose, paths⟩ := a
  have hconfig : (config.map ("--config=" ++ ·)).toList.foldlM Reading.step {} =
      .ok { arguments := { config } } := by
    cases config with
    | none => rfl
    | some file =>
      have hstep := @Reading.AtOption.step_config {} ⟨rfl, rfl⟩ rfl file
        fun hfile => h (hfile ▸ rfl)
      simp [hstep]
  have hmode : (mode.map ("--evdev=" ++ ·.word)).toList.foldlM Reading.step
      { arguments := { config } } = .ok { arguments := { config, mode } } := by
    cases mode with
    | none => rfl
    | some mode =>
      have hstep := @Reading.AtOption.step_mode { arguments := { config } } ⟨rfl, rfl⟩ rfl mode
      simp [hstep]
  have hlist : (if list then ["--list"] else []).foldlM Reading.step
      { arguments := { config, mode } } = .ok { arguments := { config, mode, list } } := by
    cases list with
    | false => rfl
    | true =>
      have hstep := @Reading.AtOption.step_list { arguments := { config, mode } } ⟨rfl, rfl⟩ rfl
      simp [hstep]
  have hverbose : (if verbose then ["--verbose"] else []).foldlM Reading.step
      { arguments := { config, mode, list } } =
        .ok { arguments := { config, mode, list, verbose } } := by
    cases verbose with
    | false => rfl
    | true =>
      have hstep := @Reading.AtOption.step_verbose { arguments := { config, mode, list } }
        ⟨rfl, rfl⟩ rfl
      simp [hstep]
  have hdashes := @Reading.AtOption.step_dashes { arguments := { config, mode, list, verbose } }
    ⟨rfl, rfl⟩
  have hpaths := @Reading.foldlM_step_paths
    { arguments := { config, mode, list, verbose }, pathsOnly := true } rfl paths
  simp only [Arguments.spelled, List.foldlM_append, hconfig, hmode, hlist, hverbose,
    List.foldlM_cons, hdashes, hpaths, bind, Except.bind, List.nil_append]

theorem read_spelled (h : a.config ≠ some "") : read a.spelled = .ok a := by
  rw [read, foldlM_step_spelled h]
  rfl

end CommandLine
end InputUdev

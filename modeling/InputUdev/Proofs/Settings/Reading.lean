import InputUdev.Settings

/-!
# What settings are read

A document gives its own values, and the usual ones where it says nothing
(`SettingsContent.Gives`); settings of a file remember its path (`Settings.FileGives`), and a file
that need not exist gives the usual settings if it does not (`Settings.OptionalFileGives`). Reading
succeeds with just the settings that are given (`Settings.ofText_eq_ok_iff`,
`Settings.ofFile_eq_ok_iff`, `Settings.ofOptionalFile_eq_ok_iff`, `Settings.reload_eq_ok_iff`).
-/

namespace InputUdev

namespace SettingsContent

/-- The value in place of a mode asks for this mode. -/
inductive AsksFor : Option Toml.Value → EvdevMode → Prop
  | nothing : AsksFor none .auto
  | yes : AsksFor (some (.boolean true)) .on
  | no : AsksFor (some (.boolean false)) .off
  | word : EvdevMode.ofText? word = some mode → AsksFor (some (.text word)) mode

/-- The settings are what the content says, and the usual ones where it says nothing. An empty name
is not accepted. -/
structure Gives (content : SettingsContent) (s : Settings) : Prop where
  root : s.root = content.root.getD "/dev"
  virtualSysname : s.virtualSysname = content.virtualSysname.getD "uinput"
  not_empty : content.virtualSysname ≠ some ""
  mode : AsksFor content.support s.mode
  source : s.source = none

variable {content : SettingsContent} {s : Settings}

theorem asksFor_value_iff {v : Toml.Value} {mode : EvdevMode} :
    AsksFor (some v) mode ↔ EvdevMode.ofValue v = .ok mode := by
  constructor
  · intro h
    cases h with
    | yes | no => rfl
    | word hword => rw [EvdevMode.ofValue, hword]
  · intro h
    cases v with
    | boolean b => cases b <;> cases h <;> constructor
    | text word =>
      rw [EvdevMode.ofValue] at h
      cases hword : EvdevMode.ofText? word with
      | none => rw [hword] at h; cases h
      | some mode' =>
        rw [hword] at h
        cases h
        exact .word hword
    | _ => cases h

theorem asksFor_iff {support : Option Toml.Value} {mode : EvdevMode} :
    AsksFor support mode ↔ support.elim (.ok .auto) EvdevMode.ofValue = .ok mode := by
  cases support with
  | some v => exact asksFor_value_iff
  | none =>
    constructor
    · intro h
      cases h
      rfl
    · intro h
      cases h
      exact .nothing

theorem Gives.virtualSysname_ne (h : content.Gives s) : s.virtualSysname ≠ "" := by
  have hne := h.not_empty
  rw [h.virtualSysname]
  cases hname : content.virtualSysname with
  | none => decide
  | some name => simpa [hname] using hne

end SettingsContent

namespace Settings

/-- The text is a document that gives the settings. -/
def TextGives (text : String) (s : Settings) : Prop :=
  ∃ content, SettingsContent.ofText? text = some content ∧ content.Gives s

/-- The path is that of a file whose text gives the settings, and they remember it. -/
inductive FileGives (files : FileTree) (path : String) : Settings → Prop
  | intro : files.readText path = .ok text → TextGives text given →
    FileGives files path { given with source := some path }

def usual : Settings :=
  { root := "/dev", virtualSysname := "uinput", mode := .auto, source := none }

/-- The settings of a file that need not exist: its own if it exists, and else the usual ones. -/
inductive OptionalFileGives (files : FileTree) (file : Option String) : Settings → Prop
  | file : file = some path → files.hasPath path = true → FileGives files path s →
    OptionalFileGives files file s
  | usual : (∀ path, file = some path → files.hasPath path = false) →
    OptionalFileGives files file usual

variable {content : SettingsContent} {files : FileTree} {file : Option String}
  {text path : String} {s : Settings}

theorem ofContent_of_empty (hname : content.virtualSysname = some "") :
    ofContent content = .error .emptySysname := by
  rw [ofContent, if_pos hname]
  rfl

theorem ofContent_of_ne (hname : content.virtualSysname ≠ some "") :
    ofContent content = (content.support.elim (.ok .auto) EvdevMode.ofValue).map fun mode =>
      { root := content.root.getD "/dev"
        virtualSysname := content.virtualSysname.getD "uinput"
        mode } := by
  rw [ofContent, if_neg hname]
  cases content.support with
  | none => rfl
  | some v =>
    rw [Option.elim_some]
    cases hmode : EvdevMode.ofValue v with
    | error e => simp only [hmode]; rfl
    | ok mode => simp only [hmode]; rfl

theorem ofContent_eq_ok_iff : ofContent content = .ok s ↔ content.Gives s := by
  by_cases hname : content.virtualSysname = some ""
  · refine iff_of_false (fun h => ?_) fun h => h.not_empty hname
    rw [ofContent_of_empty hname] at h
    cases h
  · rw [ofContent_of_ne hname]
    constructor
    · intro h
      cases hmode : content.support.elim (.ok .auto) EvdevMode.ofValue with
      | error e => rw [hmode] at h; cases h
      | ok mode =>
        rw [hmode] at h
        cases h
        exact ⟨rfl, rfl, hname, SettingsContent.asksFor_iff.mpr hmode, rfl⟩
    · intro h
      obtain ⟨root, virtualSysname, mode, source⟩ := s
      obtain ⟨hroot, hsysname, -, hmode, hsource⟩ := h
      rw [SettingsContent.asksFor_iff.mp hmode]
      cases hroot
      cases hsysname
      cases hsource
      rfl

theorem ofText_eq_ok_iff : ofText text = .ok s ↔ TextGives text s := by
  rw [ofText, TextGives]
  cases SettingsContent.ofText? text with
  | none => simp
  | some content => simp [ofContent_eq_ok_iff]

theorem ofFile_of_readText_eq_ok (htext : files.readText path = .ok text) :
    ofFile files path = (ofText text).map fun given => { given with source := some path } := by
  have hbind : ofFile files path = ofText text >>= fun given =>
      .ok { given with source := some path } := by
    rw [ofFile, htext]
    rfl
  rw [hbind]
  cases ofText text <;> rfl

theorem ofFile_of_readText_eq_error {e : IoError} (htext : files.readText path = .error e) :
    ofFile files path = .error (.unreadable e) := by
  rw [ofFile, htext]
  rfl

theorem ofFile_eq_ok_iff : ofFile files path = .ok s ↔ FileGives files path s := by
  constructor
  · intro h
    cases htext : files.readText path with
    | error e =>
      rw [ofFile_of_readText_eq_error htext] at h
      cases h
    | ok text =>
      rw [ofFile_of_readText_eq_ok htext] at h
      cases hgiven : ofText text with
      | error e =>
        rw [hgiven] at h
        cases h
      | ok given =>
        rw [hgiven] at h
        cases h
        exact .intro htext (ofText_eq_ok_iff.mp hgiven)
  · intro h
    cases h with
    | intro htext hgiven =>
      rw [ofFile_of_readText_eq_ok htext, ofText_eq_ok_iff.mpr hgiven]
      rfl

theorem FileGives.source_eq (h : FileGives files path s) : s.source = some path := by
  cases h
  rfl

theorem ofOptionalFile_of_hasPath (hfile : file = some path) (hpath : files.hasPath path = true) :
    ofOptionalFile files file = ofFile files path := by
  simp only [ofOptionalFile, hfile, Option.filter_some, hpath, if_true]

theorem ofOptionalFile_of_not_hasPath
    (hfile : ∀ path, file = some path → files.hasPath path = false) :
    ofOptionalFile files file = .ok usual := by
  have hnone : file.filter files.hasPath = none := by
    simpa [Option.filter_eq_none_iff] using hfile
  rw [ofOptionalFile, hnone]
  rfl

theorem ofOptionalFile_eq_ok_iff :
    ofOptionalFile files file = .ok s ↔ OptionalFileGives files file s := by
  constructor
  · intro h
    by_cases hfile : ∃ path, file = some path ∧ files.hasPath path = true
    · obtain ⟨path, hfile, hpath⟩ := hfile
      rw [ofOptionalFile_of_hasPath hfile hpath] at h
      exact .file hfile hpath (ofFile_eq_ok_iff.mp h)
    · have hnone : ∀ path, file = some path → files.hasPath path = false := by
        simpa using hfile
      rw [ofOptionalFile_of_not_hasPath hnone] at h
      cases h
      exact .usual hnone
  · intro h
    cases h with
    | file hfile hpath hgives =>
      rw [ofOptionalFile_of_hasPath hfile hpath]
      exact ofFile_eq_ok_iff.mpr hgives
    | usual hnone => exact ofOptionalFile_of_not_hasPath hnone

theorem reload_eq_ok_iff {new : Settings} :
    s.reload files = .ok new ↔ ∃ path, s.source = some path ∧ FileGives files path new := by
  rw [reload]
  cases s.source with
  | none => simp
  | some path => simp [ofFile_eq_ok_iff]

/-! ## The name of virtual parents -/

theorem FileGives.virtualSysname_ne (h : FileGives files path s) : s.virtualSysname ≠ "" := by
  cases h with
  | intro _ hgiven =>
    obtain ⟨content, -, hgives⟩ := hgiven
    exact hgives.virtualSysname_ne

theorem OptionalFileGives.virtualSysname_ne (h : OptionalFileGives files file s) :
    s.virtualSysname ≠ "" := by
  cases h with
  | file _ _ hgives => exact hgives.virtualSysname_ne
  | usual => decide

end Settings
end InputUdev

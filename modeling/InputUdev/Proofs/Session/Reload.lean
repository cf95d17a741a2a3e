import InputUdev.Proofs.Session.History
import InputUdev.Proofs.Settings.Refusal
import Mathlib

/-!
# Reloading

To reload is to load the file again that the settings come from, with all that the settings were
before left behind. The files after some steps are told by those steps alone that change files
(`Session.files_run`), and the settings keep to their file unless others are loaded
(`Session.source_run`), so that what happens before a reload does not matter to what it reads
(`Session.step_reload_of_history`). Main statement: `Session.reload_eq_load`.
-/

namespace InputUdev.Session

/-- What the step makes of the files. -/
def Step.edit : Step → FileTree → FileTree
  | .write path node, files => files.write path node
  | .remove path, files => files.remove path
  | _, files => files

def Step.isEdit : Step → Bool
  | .write .. | .remove .. => true
  | _ => false

/-- The settings keep to their file: files change, the mode is set, or the file is read again. -/
inductive Step.KeepsFile : Step → Prop
  | write : KeepsFile (.write path node)
  | remove : KeepsFile (.remove path)
  | setMode : KeepsFile (.setMode mode)
  | reload : KeepsFile .reload

variable {s : Session} {st : Step} {steps history : List Step} {path : String} {new : Settings}

/-! ## What a step leaves alone -/

theorem exists_step_eq (s : Session) (st : Step) :
    ∃ settings, s.step st = { s with files := st.edit s.files, settings } := by
  cases st with
  | write | remove | reset | setMode => exact ⟨_, rfl⟩
  | loadText | load | loadOptional | reload =>
    simp only [step]
    split
    · exact ⟨_, rfl⟩
    · exact ⟨_, rfl⟩

theorem files_step (s : Session) (st : Step) : (s.step st).files = st.edit s.files := by
  obtain ⟨settings, h⟩ := exists_step_eq s st
  rw [h]

theorem settingsFile_step (s : Session) (st : Step) :
    (s.step st).settingsFile = s.settingsFile := by
  obtain ⟨settings, h⟩ := exists_step_eq s st
  rw [h]

theorem files_run (s : Session) (steps : List Step) :
    (s.run steps).files = steps.foldl (fun files st => st.edit files) s.files := by
  induction steps generalizing s with
  | nil => rfl
  | cons st steps ih => rw [run_cons, ih, files_step, List.foldl_cons]

theorem settingsFile_run (s : Session) (steps : List Step) :
    (s.run steps).settingsFile = s.settingsFile := by
  induction steps generalizing s with
  | nil => rfl
  | cons st steps ih => rw [run_cons, ih, settingsFile_step]

theorem settings_run_of_edits (h : ∀ st ∈ steps, st.isEdit = true) :
    (s.run steps).settings = s.settings := by
  induction steps generalizing s with
  | nil => rfl
  | cons st steps ih =>
    obtain ⟨hst, hsteps⟩ := List.forall_mem_cons.mp h
    rw [run_cons, ih hsteps]
    cases st with
    | write | remove => rfl
    | _ => cases hst

theorem Step.edit_of_not_isEdit (h : st.isEdit = false) (files : FileTree) :
    st.edit files = files := by
  cases st with
  | write | remove => cases h
  | _ => rfl

theorem files_run_filter (s : Session) (history : List Step) :
    (s.run (history.filter Step.isEdit)).files = (s.run history).files := by
  rw [files_run, files_run, List.foldl_filter]
  congr 1
  funext files st
  split
  · rfl
  · rename_i hst
    exact (Step.edit_of_not_isEdit (by simpa using hst) files).symm

/-! ## One reload -/

theorem read?_reload (hsource : s.settings.source = some path) :
    s.read? .reload = s.read? (.load path) := by
  simp only [read?, Settings.reload, hsource]

theorem step_reload (hsource : s.settings.source = some path) :
    s.step .reload = s.step (.load path) := by
  simp only [step, read?_reload hsource]

theorem step_reload_of_ok (hsource : s.settings.source = some path)
    (hload : Settings.ofFile s.files path = .ok new) :
    s.step .reload = { s with settings := new } :=
  step_of_read?_eq_ok ((read?_reload hsource).trans (congrArg some hload))

theorem step_reload_of_error {e : SettingsError} (hsource : s.settings.source = some path)
    (hload : Settings.ofFile s.files path = .error e) : s.step .reload = s :=
  step_of_read?_eq_error ((read?_reload hsource).trans (congrArg some hload))

theorem source_step_reload (hsource : s.settings.source = some path) :
    (s.step .reload).settings.source = some path := by
  cases hload : Settings.ofFile s.files path with
  | error e => rw [step_reload_of_error hsource hload, hsource]
  | ok new =>
    rw [step_reload_of_ok hsource hload]
    exact (Settings.ofFile_eq_ok_iff.mp hload).source_eq

/-! ## What happens before a reload -/

theorem source_step (h : st.KeepsFile) (hsource : s.settings.source = some path) :
    (s.step st).settings.source = some path := by
  cases h with
  | write | remove | setMode => exact hsource
  | reload => exact source_step_reload hsource

theorem source_run (h : ∀ st ∈ history, st.KeepsFile) (hsource : s.settings.source = some path) :
    (s.run history).settings.source = some path := by
  induction history generalizing s with
  | nil => exact hsource
  | cons st history ih =>
    obtain ⟨hst, hrest⟩ := List.forall_mem_cons.mp h
    exact ih hrest (source_step hst hsource)

theorem ofFile_congr {files files' : FileTree} (h : files.readText path = files'.readText path) :
    Settings.ofFile files path = Settings.ofFile files' path := by
  rw [Settings.ofFile, Settings.ofFile, h]

/-- A reload that succeeds leaves nothing behind of earlier reloads and modes. -/
theorem step_reload_of_history (h : ∀ st ∈ history, st.KeepsFile)
    (hsource : s.settings.source = some path)
    (hload : Settings.ofFile (s.run history).files path = .ok new) :
    (s.run history).step .reload = (s.run (history.filter Step.isEdit)).step .reload := by
  have hfiles := files_run_filter s history
  have hedits : (s.run (history.filter Step.isEdit)).settings = s.settings :=
    settings_run_of_edits fun st hst => (List.mem_filter.mp hst).2
  rw [step_reload_of_ok (source_run h hsource) hload,
    step_reload_of_ok (hedits ▸ hsource) (hfiles ▸ hload), hfiles, settingsFile_run,
    settingsFile_run]

theorem settings_step_reload_again (hsource : s.settings.source = some path)
    (hsteps : ∀ st ∈ steps, st.isEdit = true)
    (htext : (s.run steps).files.readText path = s.files.readText path) :
    (((s.step .reload).run steps).step .reload).settings = (s.step .reload).settings := by
  have hfiles : ((s.step .reload).run steps).files = (s.run steps).files := by
    rw [files_run, files_run, files_step]
    rfl
  have hsettings : ((s.step .reload).run steps).settings = (s.step .reload).settings :=
    settings_run_of_edits hsteps
  have hsource' : ((s.step .reload).run steps).settings.source = some path :=
    hsettings ▸ source_step_reload hsource
  have hload : Settings.ofFile ((s.step .reload).run steps).files path =
      Settings.ofFile s.files path := ofFile_congr (by rw [hfiles, htext])
  -- the second reload reads what the first one read, and ends as it did
  cases hfirst : Settings.ofFile s.files path with
  | error e => rw [step_reload_of_error hsource' (hload.trans hfirst), hsettings]
  | ok new =>
    rw [step_reload_of_ok hsource' (hload.trans hfirst), step_reload_of_ok hsource hfirst]

/-- Settings that come from no file cannot be reloaded. Others are loaded from their file as it is
now: if that fails, nothing changes, and if not, they are what the file says and remember it. To
reload again while the file says the same changes nothing, and after a reload that succeeds all is
as if only the files had changed before, with no mode set and no reload tried. -/
theorem reload_eq_load (s : Session) :
    (s.settings.source = none →
      s.read? .reload = some (.error .noSource) ∧
      SettingsError.noSource.Invalid "No source path set" ∧ s.step .reload = s) ∧
    ∀ path, s.settings.source = some path →
      s.read? .reload = s.read? (.load path) ∧ s.step .reload = s.step (.load path) ∧
      (∀ e, Settings.ofFile s.files path = .error e → s.step .reload = s) ∧
      (∀ new, Settings.ofFile s.files path = .ok new → s.step .reload = { s with settings := new } ∧
        Settings.FileGives s.files path new ∧ new.source = some path) ∧
      (∀ edits, (∀ st ∈ edits, st.isEdit = true) →
        (s.run edits).files.readText path = s.files.readText path →
        (((s.step .reload).run edits).step .reload).settings = (s.step .reload).settings) ∧
      ∀ history, (∀ st ∈ history, st.KeepsFile) →
        (s.run history).settings.source = some path ∧
        ∀ new, Settings.ofFile (s.run history).files path = .ok new →
          (s.run history).step .reload = (s.run (history.filter Step.isEdit)).step .reload := by
  refine ⟨fun hsource => ?_, fun path hsource => ⟨read?_reload hsource, step_reload hsource,
    fun e => step_reload_of_error hsource, fun new hload => ?_,
    fun edits => settings_step_reload_again hsource,
    fun history h => ⟨source_run h hsource, fun new => step_reload_of_history h hsource⟩⟩⟩
  · have hread : s.read? .reload = some (.error .noSource) := by
      simp only [read?, Settings.reload, hsource]
    exact ⟨hread, rfl, step_of_read?_eq_error hread⟩
  · have hgives := Settings.ofFile_eq_ok_iff.mp hload
    exact ⟨step_reload_of_ok hsource hload, hgives, hgives.source_eq⟩

/-- The file of the settings is gone. -/
def sampleSession : Session where
  files := .bare ["home"]
  settings := { root := "/a", source := some "inputid.toml" }

/-- There is a directory in place of the file, and at last a file. -/
def sampleHistory : List Step := [
  .reload, .setMode .on, .write "inputid.toml" .directory, .reload,
  .write "inputid.toml" (.file "[evdev]\nsupport = 'off'\n".toUTF8)]

theorem reload_eq_load_repaired :
    sampleSession.settings.source = some "inputid.toml" ∧
    (∀ st ∈ sampleHistory, st.KeepsFile) ∧
    Settings.ofFile (sampleSession.run sampleHistory).files "inputid.toml" =
      .ok { mode := .off, source := some "inputid.toml" } ∧
    (sampleSession.run sampleHistory).step .reload =
      (sampleSession.run (sampleHistory.filter Step.isEdit)).step .reload := by
  have hsource : sampleSession.settings.source = some "inputid.toml" := rfl
  have hkeeps : ∀ st ∈ sampleHistory, st.KeepsFile := by
    simp only [sampleHistory, List.forall_mem_cons]
    exact ⟨.reload, .setMode, .write, .reload, .write, List.forall_mem_nil _⟩
  have hload : Settings.ofFile (sampleSession.run sampleHistory).files "inputid.toml" =
      .ok { mode := .off, source := some "inputid.toml" } := by cbv
  exact ⟨hsource, hkeeps, hload,
    (((reload_eq_load sampleSession).2 _ hsource).2.2.2.2.2 _ hkeeps).2 _ hload⟩

end InputUdev.Session

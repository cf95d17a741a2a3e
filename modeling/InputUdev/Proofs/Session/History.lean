import InputUdev.Proofs.Settings.Reading
import InputUdev.Session
import Mathlib.Data.List.Induction

/-!
# The settings in a session

Some steps put new settings in place of those in use (`Session.Replaces`), and the latest of these
and the steps after it tell what the settings are (`Session.Latest`). Main statement: after any
steps the settings are those of the latest replacement, but for a mode that was set since then, the
name of virtual parents is not empty, and a step that fails changes nothing
(`Session.run_settings`).
-/

namespace InputUdev.Session

/-- A session as it begins. -/
def start (files : FileTree) (settingsFile : Option String) : Session := { files, settingsFile }

/-- The step succeeds and puts these settings in place of those in use. -/
inductive Replaces (s : Session) : Step → Settings → Prop
  | reset : Replaces s .reset .usual
  | loadText : Settings.TextGives text new → Replaces s (.loadText text) new
  | load : Settings.FileGives s.files path new → Replaces s (.load path) new
  | loadOptional : Settings.OptionalFileGives s.files s.settingsFile new →
    Replaces s .loadOptional new
  | reload : s.settings.source = some path → Settings.FileGives s.files path new →
    Replaces s .reload new

/-- No step of the run replaces the settings. -/
inductive Keeps : Session → List Step → Prop
  | nil : Keeps s []
  | cons : (∀ new, ¬ s.Replaces st new) → Keeps (s.step st) steps → Keeps s (st :: steps)

/-- The settings of the latest step to replace those in use, and the steps after it; the usual
settings and all steps if there is none. -/
inductive Latest (s : Session) : List Step → Settings → List Step → Prop
  | none : s.Keeps steps → Latest s steps .usual steps
  | replaced : (s.run earlier).Replaces st new → ((s.run earlier).step st).Keeps later →
    Latest s (earlier ++ st :: later) new later

/-- The mode after the steps: the one that was set last, or the given one if none was set. -/
inductive ModeAfter (given : EvdevMode) : List Step → EvdevMode → Prop
  | given : (∀ mode, .setMode mode ∉ steps) → ModeAfter given steps given
  | set (earlier : List Step) : (∀ mode', .setMode mode' ∉ later) →
    ModeAfter given (earlier ++ .setMode mode :: later) mode

variable {s : Session} {st : Step} {steps : List Step} {new : Settings}

/-! ## One step -/

theorem read?_eq_ok_iff : s.read? st = some (.ok new) ↔ st ≠ .reset ∧ s.Replaces st new := by
  constructor
  · intro h
    cases st with
    | write | remove | reset | setMode => cases h
    | loadText text =>
      exact ⟨nofun, .loadText (Settings.ofText_eq_ok_iff.mp (Option.some.inj h))⟩
    | load path => exact ⟨nofun, .load (Settings.ofFile_eq_ok_iff.mp (Option.some.inj h))⟩
    | loadOptional =>
      exact ⟨nofun, .loadOptional (Settings.ofOptionalFile_eq_ok_iff.mp (Option.some.inj h))⟩
    | reload =>
      obtain ⟨path, hsource, hgives⟩ := Settings.reload_eq_ok_iff.mp (Option.some.inj h)
      exact ⟨nofun, .reload hsource hgives⟩
  · rintro ⟨hreset, h⟩
    cases h with
    | reset => exact absurd rfl hreset
    | loadText hgives => exact congrArg some (Settings.ofText_eq_ok_iff.mpr hgives)
    | load hgives => exact congrArg some (Settings.ofFile_eq_ok_iff.mpr hgives)
    | loadOptional hgives => exact congrArg some (Settings.ofOptionalFile_eq_ok_iff.mpr hgives)
    | reload hsource hgives =>
      exact congrArg some (Settings.reload_eq_ok_iff.mpr ⟨_, hsource, hgives⟩)

theorem step_of_read?_eq_ok (h : s.read? st = some (.ok new)) :
    s.step st = { s with settings := new } := by
  cases st with
  | write | remove | reset | setMode => cases h
  | loadText | load | loadOptional | reload => simp only [step, h]

theorem step_of_read?_eq_error {e : SettingsError} (h : s.read? st = some (.error e)) :
    s.step st = s := by
  cases st with
  | write | remove | reset | setMode => cases h
  | loadText | load | loadOptional | reload => simp only [step, h]

theorem settings_step_of_replaces (h : s.Replaces st new) : (s.step st).settings = new := by
  by_cases hreset : st = .reset
  · subst hreset
    cases h
    rfl
  · rw [step_of_read?_eq_ok (read?_eq_ok_iff.mpr ⟨hreset, h⟩)]

/-- A step that replaces nothing changes the settings only if it sets the mode. -/
theorem settings_step_of_keeps (h : ∀ new, ¬ s.Replaces st new)
    (hmode : ∀ mode, st ≠ .setMode mode) : (s.step st).settings = s.settings := by
  cases hread : s.read? st with
  | some answer =>
    cases answer with
    | error e => rw [step_of_read?_eq_error hread]
    | ok new => exact absurd (read?_eq_ok_iff.mp hread).2 (h new)
  | none =>
    cases st with
    | write | remove => rfl
    | reset => exact absurd .reset (h _)
    | setMode mode => exact absurd rfl (hmode mode)
    | loadText | load | loadOptional | reload => cases hread

theorem Replaces.virtualSysname_ne (h : s.Replaces st new) : new.virtualSysname ≠ "" := by
  cases h with
  | reset => decide
  | loadText hgives =>
    obtain ⟨content, -, hgives⟩ := hgives
    exact hgives.virtualSysname_ne
  | load hgives => exact hgives.virtualSysname_ne
  | loadOptional hgives => exact hgives.virtualSysname_ne
  | reload _ hgives => exact hgives.virtualSysname_ne

theorem virtualSysname_ne_step (h : s.settings.virtualSysname ≠ "") (st : Step) :
    (s.step st).settings.virtualSysname ≠ "" := by
  by_cases hreplaces : ∃ new, s.Replaces st new
  · obtain ⟨new, hreplaces⟩ := hreplaces
    rw [settings_step_of_replaces hreplaces]
    exact hreplaces.virtualSysname_ne
  · rw [not_exists] at hreplaces
    by_cases hmode : ∃ mode, st = .setMode mode
    · obtain ⟨mode, rfl⟩ := hmode
      exact h
    · rw [settings_step_of_keeps hreplaces (not_exists.mp hmode)]
      exact h

/-! ## Runs -/

theorem run_cons : s.run (st :: steps) = (s.step st).run steps := rfl

theorem run_append (steps' : List Step) : s.run (steps ++ steps') = (s.run steps).run steps' :=
  List.foldl_append

theorem virtualSysname_ne_run (h : s.settings.virtualSysname ≠ "") (steps : List Step) :
    (s.run steps).settings.virtualSysname ≠ "" := by
  induction steps generalizing s with
  | nil => exact h
  | cons st steps ih => exact ih (virtualSysname_ne_step h st)

theorem ModeAfter.cons {given mode : EvdevMode} (h : ModeAfter given steps mode)
    (hst : ∀ mode, st ≠ .setMode mode) : ModeAfter given (st :: steps) mode := by
  cases h with
  | given hnone =>
    apply ModeAfter.given
    intro mode hmem
    rcases List.mem_cons.mp hmem with heq | hmem
    · exact hst mode heq.symm
    · exact hnone mode hmem
  | set earlier hnone => exact .set (st :: earlier) hnone

theorem ModeAfter.cons_setMode {given mode mode' : EvdevMode} (h : ModeAfter mode steps mode') :
    ModeAfter given (.setMode mode :: steps) mode' := by
  cases h with
  | given hnone => exact .set [] hnone
  | set earlier hnone => exact .set (.setMode mode :: earlier) hnone

/-- But for the mode, a run of steps that replace nothing keeps the settings. -/
theorem Keeps.settings_run (h : s.Keeps steps) :
    ∃ mode, (s.run steps).settings = { s.settings with mode := mode } ∧
      ModeAfter s.settings.mode steps mode := by
  induction h with
  | nil => exact ⟨_, rfl, .given (by simp)⟩
  | cons hst _ ih =>
    rename_i s st steps
    obtain ⟨mode, hsettings, hmode⟩ := ih
    rw [run_cons, hsettings]
    by_cases hset : ∃ mode, st = Step.setMode mode
    · obtain ⟨mode', rfl⟩ := hset
      exact ⟨mode, rfl, hmode.cons_setMode⟩
    · rw [not_exists] at hset
      rw [settings_step_of_keeps hst hset] at hmode ⊢
      exact ⟨mode, rfl, hmode.cons hset⟩

theorem Keeps.concat (h : s.Keeps steps) (hst : ∀ new, ¬ (s.run steps).Replaces st new) :
    s.Keeps (steps ++ [st]) := by
  induction h with
  | nil => exact .cons hst .nil
  | cons hfirst _ ih => exact .cons hfirst (ih hst)

theorem exists_latest (s : Session) (steps : List Step) :
    ∃ base after, s.Latest steps base after := by
  induction steps using List.reverseRecOn with
  | nil => exact ⟨_, _, .none .nil⟩
  | append_singleton steps st ih =>
    -- the last step is the latest to replace the settings, or it joins those after the latest
    by_cases hst : ∃ new, (s.run steps).Replaces st new
    · obtain ⟨new, hst⟩ := hst
      exact ⟨new, [], .replaced hst .nil⟩
    · rw [not_exists] at hst
      obtain ⟨base, after, hlatest⟩ := ih
      cases hlatest with
      | none hkeeps => exact ⟨_, _, .none (hkeeps.concat hst)⟩
      | @replaced earlier st' _ later hreplaces hkeeps =>
        rw [run_append, run_cons] at hst
        rw [List.append_assoc, List.cons_append]
        exact ⟨_, _, .replaced hreplaces (hkeeps.concat hst)⟩

theorem Latest.settings_run {base : Settings} {after : List Step}
    (h : s.Latest steps base after) (hs : s.settings = .usual) :
    ∃ mode, (s.run steps).settings = { base with mode := mode } ∧
      ModeAfter base.mode after mode := by
  cases h with
  | none hkeeps =>
    rw [← hs]
    exact hkeeps.settings_run
  | replaced hreplaces hkeeps =>
    rw [run_append, run_cons, ← settings_step_of_replaces hreplaces]
    exact hkeeps.settings_run

/-- In a session the name of virtual parents is never empty, a step that fails changes nothing, and
the settings are those of the latest step to replace them, with the mode that was set since then if
any was. -/
theorem run_settings (files : FileTree) (settingsFile : Option String) (steps : List Step) :
    ((start files settingsFile).run steps).settings.virtualSysname ≠ "" ∧
    (∀ st e, ((start files settingsFile).run steps).read? st = some (.error e) →
      ((start files settingsFile).run steps).step st = (start files settingsFile).run steps) ∧
    (∃ base after, (start files settingsFile).Latest steps base after) ∧
    ∀ base after, (start files settingsFile).Latest steps base after →
      ∃ mode, ((start files settingsFile).run steps).settings = { base with mode := mode } ∧
        ModeAfter base.mode after mode := by
  have hne : Settings.usual.virtualSysname ≠ "" := by decide
  refine ⟨virtualSysname_ne_run hne steps, ?_, exists_latest _ steps, ?_⟩
  · intro st e hfails
    exact step_of_read?_eq_error hfails
  · intro base after hlatest
    exact hlatest.settings_run rfl

end InputUdev.Session

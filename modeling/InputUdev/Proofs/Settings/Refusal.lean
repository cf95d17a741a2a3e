import InputUdev.Proofs.Settings.Reading
import Mathlib

/-!
# What settings are refused

A document is refused for an empty name of virtual parents, and else for a value in place of a mode
that asks for none (`SettingsContent.Refused`, `Settings.ofContent_eq_error_iff`). Documents that
mean the same have one answer (`SettingsContent.Agrees`, `Settings.ofContent_congr`). Main
statement: reading a text ends in the settings that its document gives, in the error for what is
wrong in the document, or in the one for a text that is no document, and nothing else in the text
matters (`Settings.ofText_outcome`).
-/

namespace InputUdev

/-- The error is one of a value, of which its message says this. -/
def SettingsError.Invalid (e : SettingsError) (what : String) : Prop :=
  e.message = "Invalid setting value: " ++ what

/-- The value asks for no mode, which is this error. -/
inductive EvdevMode.Refuses : Toml.Value → SettingsError → Prop
  | unknownMode : ofText? text = none → Refuses (.text text) (.unknownMode text)
  | notAMode : (∀ b, v ≠ .boolean b) → (∀ word, v ≠ .text word) → Refuses v (.notAMode v)

namespace SettingsContent

/-- The content is refused with this error. The name of virtual parents goes before the mode. -/
inductive Refused (content : SettingsContent) : SettingsError → Prop
  | emptySysname : content.virtualSysname = some "" → Refused content .emptySysname
  | mode : content.virtualSysname ≠ some "" → content.support = some v →
    EvdevMode.Refuses v e → Refused content e

/-- There is a value in place of a mode, and it asks for none. -/
def HasNoMode (content : SettingsContent) : Prop :=
  ∃ v, content.support = some v ∧ ∀ mode, ¬ AsksFor (some v) mode

/-- The contents mean the same: what one of them leaves out has its usual value in the other, and
the modes may be asked for in different ways. -/
structure Agrees (content content' : SettingsContent) : Prop where
  root : content.root.getD "/dev" = content'.root.getD "/dev"
  virtualSysname : content.virtualSysname.getD "uinput" = content'.virtualSysname.getD "uinput"
  support : content.support = content'.support ∨
    ∃ mode, AsksFor content.support mode ∧ AsksFor content'.support mode

end SettingsContent

/-! ## Values in place of a mode -/

theorem SettingsError.invalid_unknownMode (text : String) :
    (unknownMode text).Invalid ("Cannot convert '" ++ text ++ "' to an evdev mode") := by
  rw [Invalid, ← String.append_assoc, ← String.append_assoc]
  rfl

namespace EvdevMode

variable {v : Toml.Value} {e : SettingsError}

theorem ofValue_eq_error_iff : ofValue v = .error e ↔ Refuses v e := by
  constructor
  · intro h
    cases v with
    | boolean b => cases b <;> cases h
    | text word =>
      rw [ofValue] at h
      cases hword : ofText? word with
      | none =>
        rw [hword] at h
        cases h
        exact .unknownMode hword
      | some mode =>
        rw [hword] at h
        cases h
    | _ =>
      cases h
      exact .notAMode (fun _ hb => by cases hb) fun _ htext => by cases htext
  · intro h
    cases h with
    | unknownMode hword => rw [ofValue, hword]
    | notAMode hboolean htext =>
      cases v with
      | boolean b => exact absurd rfl (hboolean b)
      | text word => exact absurd rfl (htext word)
      | _ => rfl

theorem exists_refuses_iff :
    (∃ e, Refuses v e) ↔ ∀ mode, ¬ SettingsContent.AsksFor (some v) mode := by
  simp only [← ofValue_eq_error_iff, SettingsContent.asksFor_value_iff]
  cases ofValue v with
  | error e => simp
  | ok mode => simp

theorem Refuses.invalid (h : Refuses v e) : ∃ what, e.Invalid what := by
  cases h with
  | unknownMode => exact ⟨_, SettingsError.invalid_unknownMode _⟩
  | notAMode =>
    refine ⟨"Cannot convert " ++ v.shown ++ " to an evdev mode", ?_⟩
    rw [SettingsError.Invalid, ← String.append_assoc, ← String.append_assoc]
    rfl

end EvdevMode

/-! ## Documents -/

namespace Settings

variable {content : SettingsContent} {text : String} {e : SettingsError}

theorem ofContent_eq_error_iff : ofContent content = .error e ↔ content.Refused e := by
  by_cases hname : content.virtualSysname = some ""
  · rw [ofContent_of_empty hname]
    constructor
    · intro h
      cases h
      exact .emptySysname hname
    · intro h
      cases h with
      | emptySysname => rfl
      | mode hne => exact absurd hname hne
  · rw [ofContent_of_ne hname]
    constructor
    · intro h
      cases hsupport : content.support with
      | none =>
        rw [hsupport] at h
        cases h
      | some v =>
        rw [hsupport, Option.elim_some] at h
        cases hmode : EvdevMode.ofValue v with
        | ok mode =>
          rw [hmode] at h
          cases h
        | error e' =>
          rw [hmode] at h
          cases h
          exact .mode hname hsupport (EvdevMode.ofValue_eq_error_iff.mp hmode)
    · intro h
      cases h with
      | emptySysname hempty => exact absurd hempty hname
      | mode _ hsupport hrefuses =>
        rw [hsupport, Option.elim_some, EvdevMode.ofValue_eq_error_iff.mpr hrefuses]
        rfl

theorem ofText_of_content (hcontent : SettingsContent.ofText? text = some content) :
    ofText text = ofContent content := by
  rw [ofText, hcontent]

theorem ofText_eq_malformed_iff :
    ofText text = .error .malformed ↔ SettingsContent.ofText? text = none := by
  cases hcontent : SettingsContent.ofText? text with
  | none => simp [ofText, hcontent]
  | some content =>
    rw [ofText_of_content hcontent, ofContent_eq_error_iff]
    refine iff_of_false (fun h => ?_) (Option.some_ne_none _)
    obtain _ | ⟨_, _, hrefuses⟩ := h
    cases hrefuses

end Settings

namespace SettingsContent

variable {content content' : SettingsContent} {e : SettingsError}

theorem refused_emptySysname_iff :
    content.Refused .emptySysname ↔ content.virtualSysname = some "" := by
  refine ⟨fun h => ?_, .emptySysname⟩
  cases h with
  | emptySysname hname => exact hname
  | mode _ _ hrefuses => cases hrefuses

theorem exists_refused_iff (hname : content.virtualSysname ≠ some "") :
    (∃ e, content.Refused e) ↔ content.HasNoMode := by
  simp only [HasNoMode, ← EvdevMode.exists_refuses_iff]
  constructor
  · rintro ⟨e, h⟩
    cases h with
    | emptySysname hempty => exact absurd hempty hname
    | mode _ hsupport hrefuses => exact ⟨_, hsupport, _, hrefuses⟩
  · rintro ⟨v, hsupport, e, hrefuses⟩
    exact ⟨e, .mode hname hsupport hrefuses⟩

theorem Refused.invalid (h : content.Refused e) : ∃ what, e.Invalid what := by
  cases h with
  | emptySysname => exact ⟨"virtual_sysname must not be empty", rfl⟩
  | mode _ _ hrefuses => exact hrefuses.invalid

theorem exists_gives (h : ∀ e, ¬ content.Refused e) : ∃ s, content.Gives s := by
  cases hcontent : Settings.ofContent content with
  | ok s => exact ⟨s, Settings.ofContent_eq_ok_iff.mp hcontent⟩
  | error e => exact absurd (Settings.ofContent_eq_error_iff.mp hcontent) (h e)

/-! ## Documents that mean the same -/

theorem virtualSysname_eq_empty_iff :
    content.virtualSysname = some "" ↔ content.virtualSysname.getD "uinput" = "" := by
  cases content.virtualSysname with
  | none => exact iff_of_false nofun (by decide)
  | some name => simp

theorem Agrees.mode_eq (h : content.Agrees content') :
    content.support.elim (.ok .auto) EvdevMode.ofValue =
      content'.support.elim (.ok .auto) EvdevMode.ofValue := by
  rcases h.support with hsupport | ⟨mode, hmode, hmode'⟩
  · rw [hsupport]
  · rw [asksFor_iff.mp hmode, asksFor_iff.mp hmode']

end SettingsContent

namespace Settings

variable {content content' : SettingsContent}

theorem ofContent_congr (h : content.Agrees content') :
    ofContent content = ofContent content' := by
  have hempty : content.virtualSysname = some "" ↔ content'.virtualSysname = some "" := by
    rw [SettingsContent.virtualSysname_eq_empty_iff, h.virtualSysname,
      SettingsContent.virtualSysname_eq_empty_iff]
  by_cases hname : content.virtualSysname = some ""
  · rw [ofContent_of_empty hname, ofContent_of_empty (hempty.mp hname)]
  · rw [ofContent_of_ne hname, ofContent_of_ne (mt hempty.mpr hname), h.root, h.virtualSysname,
      h.mode_eq]

/-- A document with an empty name of virtual parents is refused for it, any other one with a value
in place of a mode that asks for none is refused for that, and the rest give their values or the
usual ones. A text that is no document is malformed. Documents that mean the same, whatever else
they say, are refused for the same error or give the same settings, and so the same state of evdev
and the same rules. -/
theorem ofText_outcome :
    (∀ text content, SettingsContent.ofText? text = some content →
      (ofText text = .error .emptySysname ↔ content.virtualSysname = some "") ∧
      SettingsError.emptySysname.Invalid "virtual_sysname must not be empty" ∧
      (content.virtualSysname ≠ some "" →
        ((∃ e what, ofText text = .error e ∧ e.Invalid what) ↔ content.HasNoMode) ∧
        (¬ content.HasNoMode → ∃ s, ofText text = .ok s ∧ content.Gives s))) ∧
    (∀ text, ofText text = .error .malformed ↔ SettingsContent.ofText? text = none) ∧
    ∀ text text' content content', SettingsContent.ofText? text = some content →
      SettingsContent.ofText? text' = some content' → content.Agrees content' →
      ofText text = ofText text' ∧
      ∀ s s', ofText text = .ok s → ofText text' = .ok s' → ∀ tunables path,
        s.evdevEnabled tunables = s'.evdevEnabled tunables ∧
        (s.ruleTable (s.evdevEnabled tunables)).ruleFor path =
          (s'.ruleTable (s'.evdevEnabled tunables)).ruleFor path := by
  refine ⟨fun text content hcontent => ?_, fun text => ofText_eq_malformed_iff, ?_⟩
  · rw [ofText_of_content hcontent]
    simp only [ofContent_eq_error_iff, ofContent_eq_ok_iff]
    refine ⟨SettingsContent.refused_emptySysname_iff, rfl, fun hname => ⟨?_, fun hmode => ?_⟩⟩
    · rw [← SettingsContent.exists_refused_iff hname]
      constructor
      · rintro ⟨e, what, h, -⟩
        exact ⟨e, h⟩
      · rintro ⟨e, h⟩
        obtain ⟨what, hwhat⟩ := h.invalid
        exact ⟨e, what, h, hwhat⟩
    · rw [← SettingsContent.exists_refused_iff hname, not_exists] at hmode
      obtain ⟨s, hgives⟩ := SettingsContent.exists_gives hmode
      exact ⟨s, hgives, hgives⟩
  · intro text text' content content' hcontent hcontent' hagrees
    have heq : ofText text = ofText text' := by
      rw [ofText_of_content hcontent, ofText_of_content hcontent', ofContent_congr hagrees]
    refine ⟨heq, fun s s' hs hs' tunables path => ?_⟩
    cases Except.ok.inj (hs.symm.trans (heq.trans hs'))
    exact ⟨rfl, rfl⟩

/-- The usual root spelled out, another word for the mode, and a key that means nothing. -/
theorem ofText_outcome_spelled_out :
    SettingsContent.ofText? "[evdev]\nsupport = true\n" =
      some { support := some (.boolean true) } ∧
    SettingsContent.ofText? "evdev = ['YES']\n[devices]\nroot = '/dev'\nleaf = [3]\n" =
      some { root := some "/dev", support := some (.text "YES") } ∧
    ofText "[evdev]\nsupport = true\n" =
      ofText "evdev = ['YES']\n[devices]\nroot = '/dev'\nleaf = [3]\n" := by
  have hread : SettingsContent.ofText? "[evdev]\nsupport = true\n" =
      some { support := some (.boolean true) } := by cbv
  have hread' : SettingsContent.ofText? "evdev = ['YES']\n[devices]\nroot = '/dev'\nleaf = [3]\n" =
      some { root := some "/dev", support := some (.text "YES") } := by cbv
  have hword : EvdevMode.ofText? "YES" = some .on := by decide
  exact ⟨hread, hread',
    (ofText_outcome.2.2 _ _ _ _ hread hread' ⟨rfl, rfl, .inr ⟨.on, .yes, .word hword⟩⟩).1⟩

end Settings
end InputUdev

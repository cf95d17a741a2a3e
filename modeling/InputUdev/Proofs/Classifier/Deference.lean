import InputUdev.Classifier
import InputUdev.Proofs.RuleTable.FirstMatch

/-!
# Deference to evdev

One classifier with evdev off and on. Evdev only takes devices away: if the first rule that accepts
a path leaves its devices to evdev, the device stays bare and unprobed while evdev is on, whatever
rules follow, and otherwise the two runs are the same. Main statement: `Classifier.deference`.
-/

namespace InputUdev

namespace RuleTable

/-- The same rules, with evdev off or on. -/
def withEvdev (t : RuleTable) (on : Bool) : RuleTable := { t with evdevEnabled := on }

/-- The first rule that accepts the path leaves its devices to evdev. -/
def LeavesToEvdev (t : RuleTable) (path : String) : Prop :=
  ∃ r, t.IsFirst path r ∧ r.skipIfEvdev = true

variable {t : RuleTable} {path : String} {on : Bool}

theorem firstMatch_withEvdev : (t.withEvdev on).firstMatch path = t.firstMatch path := rfl

theorem defers_withEvdev {r : Rule} : (t.withEvdev on).defers r = (r.skipIfEvdev && on) := rfl

theorem ruleFor_of_leavesToEvdev (h : t.LeavesToEvdev path) :
    (t.withEvdev true).ruleFor path = none := by
  obtain ⟨r, hr, hskip⟩ := h
  rw [ruleFor, firstMatch_withEvdev, firstMatch_eq_some_iff.mpr hr]
  simp [defers_withEvdev, hskip]

/-- A rule that leaves nothing to evdev applies with evdev as without, and in silence. -/
theorem lookups_of_not_leavesToEvdev (h : ¬ t.LeavesToEvdev path) :
    (t.withEvdev true).ruleFor path = (t.withEvdev false).ruleFor path ∧
      (t.withEvdev true).lookupMessages path = (t.withEvdev false).lookupMessages path := by
  cases hr : t.firstMatch path with
  | none => simp [ruleFor, lookupMessages, firstMatch_withEvdev, hr]
  | some r =>
    have hskip : r.skipIfEvdev = false :=
      Bool.eq_false_iff.mpr fun hskip => h ⟨r, firstMatch_eq_some_iff.mp hr, hskip⟩
    simp [ruleFor, lookupMessages, firstMatch_withEvdev, defers_withEvdev, hr, hskip,
      Option.filter_some]

/-- With evdev on, the rule of a path is the one without evdev, or there is none. -/
theorem ruleFor_withEvdev_true_eq_or :
    (t.withEvdev true).ruleFor path = (t.withEvdev false).ruleFor path ∨
      (t.withEvdev true).ruleFor path = none := by
  by_cases h : t.LeavesToEvdev path
  · exact .inr (ruleFor_of_leavesToEvdev h)
  · exact .inl (lookups_of_not_leavesToEvdev h).1

theorem handlerFor_withEvdev_true_eq_or :
    (t.withEvdev true).handlerFor path = (t.withEvdev false).handlerFor path ∨
      (t.withEvdev true).handlerFor path = none := by
  rw [handlerFor, handlerFor]
  rcases t.ruleFor_withEvdev_true_eq_or with h | h <;> rw [h]
  · exact .inl rfl
  · exact .inr rfl

theorem subsystemFor_withEvdev_true_eq_or :
    (t.withEvdev true).subsystemFor path = (t.withEvdev false).subsystemFor path ∨
      (t.withEvdev true).subsystemFor path = "unknown" := by
  rw [subsystemFor, subsystemFor]
  rcases t.ruleFor_withEvdev_true_eq_or with h | h <;> rw [h]
  · exact .inl rfl
  · exact .inr rfl

end RuleTable

namespace Classifier

/-- The same classifier, with evdev off or on. -/
def withEvdev (k : Classifier) (on : Bool) : Classifier := { k with rules := k.rules.withEvdev on }

variable {k : Classifier} {path : String} {action : Action}

/-- A path without a rule gives a bare device of unknown subsystem. -/
theorem deviceFor_of_ruleFor_eq_none (h : k.rules.ruleFor path = none) :
    (k.deviceFor path action).device =
        { syspath := path, devnode := some path, subsystem := "unknown", action := action,
          properties := .empty, sysattrs := .empty, ancestors := [] } ∧
      (k.deviceFor path action).verdict = none ∧ (k.deviceFor path action).probes = [] := by
  have hhandler : k.rules.handlerFor path = none := by rw [RuleTable.handlerFor, h]; rfl
  have hsubsystem : k.rules.subsystemFor path = "unknown" := by rw [RuleTable.subsystemFor, h]; rfl
  simp only [deviceFor, dispatch, Device.ofNode, Device.bare, hhandler, hsubsystem, and_self]

theorem handle_withEvdev {on : Bool} : (k.withEvdev on).handle = k.handle := by
  funext h d
  cases h <;> rfl

/-- A device depends on evdev only through the rule of its path and what the lookup has to say. -/
theorem deviceFor_withEvdev_congr
    (hrule : (k.rules.withEvdev true).ruleFor path = (k.rules.withEvdev false).ruleFor path)
    (hmessages : (k.rules.withEvdev true).lookupMessages path =
      (k.rules.withEvdev false).lookupMessages path) :
    (k.withEvdev true).deviceFor path action = (k.withEvdev false).deviceFor path action := by
  have hrules (on : Bool) : (k.withEvdev on).rules = k.rules.withEvdev on := rfl
  simp only [deviceFor, dispatch, Device.ofNode, Device.bare, RuleTable.handlerFor,
    RuleTable.subsystemFor, handle_withEvdev, hrules, hrule, hmessages]

/-- Turning evdev on takes devices away and changes none. If the first rule of a path leaves its
devices to evdev, the device is bare and not probed; otherwise the run is the one without evdev. So
the handler, the subsystem and the class are those without evdev, or there are none. -/
theorem deference (k : Classifier) (path : String) (action : Action) :
    (k.rules.LeavesToEvdev path →
      ((k.withEvdev true).deviceFor path action).device =
        { syspath := path, devnode := some path, subsystem := "unknown", action := action,
          properties := .empty, sysattrs := .empty, ancestors := [] } ∧
      ((k.withEvdev true).deviceFor path action).verdict = none ∧
      ((k.withEvdev true).deviceFor path action).probes = []) ∧
    (¬ k.rules.LeavesToEvdev path →
      (k.withEvdev true).deviceFor path action = (k.withEvdev false).deviceFor path action) ∧
    ((k.withEvdev true).rules.handlerFor path = (k.withEvdev false).rules.handlerFor path ∨
      (k.withEvdev true).rules.handlerFor path = none) ∧
    ((k.withEvdev true).rules.subsystemFor path = (k.withEvdev false).rules.subsystemFor path ∨
      (k.withEvdev true).rules.subsystemFor path = "unknown") ∧
    (((k.withEvdev true).deviceFor path action).verdict =
        ((k.withEvdev false).deviceFor path action).verdict ∨
      ((k.withEvdev true).deviceFor path action).verdict = none) := by
  have hleft (h : k.rules.LeavesToEvdev path) :=
    @deviceFor_of_ruleFor_eq_none (k.withEvdev true) path action
      (RuleTable.ruleFor_of_leavesToEvdev h)
  have hkept (h : ¬ k.rules.LeavesToEvdev path) :
      (k.withEvdev true).deviceFor path action = (k.withEvdev false).deviceFor path action := by
    obtain ⟨hrule, hmessages⟩ := RuleTable.lookups_of_not_leavesToEvdev h
    exact deviceFor_withEvdev_congr hrule hmessages
  refine ⟨hleft, hkept, RuleTable.handlerFor_withEvdev_true_eq_or,
    RuleTable.subsystemFor_withEvdev_true_eq_or, ?_⟩
  by_cases h : k.rules.LeavesToEvdev path
  · exact .inr (hleft h).2.1
  · exact .inl (congrArg Progress.verdict (hkept h))

end Classifier
end InputUdev

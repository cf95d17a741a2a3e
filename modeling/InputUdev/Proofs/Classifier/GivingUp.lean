import InputUdev.Classifier
import InputUdev.Proofs.RuleTable.FirstMatch

/-!
# When a classifier leaves a device alone

A dispatch gives up for reasons that lie apart in the rule lookup, the probe and the classification
(`Classifier.GivesUp`). Main statement: a dispatch finds no class exactly when there is such a
reason, and then the device is the one it was, with all its entries and its whole line of ancestors;
otherwise it finds a class other than `none` (`Classifier.dispatch_givesUp`).
-/

namespace InputUdev.Classifier

/-- A probe of the device finds no class. -/
inductive Unrecognised (k : Classifier) (d : Device) : Prop
  | noNode : d.devnode = none → Unrecognised k d
  | probeFailed : d.devnode = some node → k.capabilities node = .error e → Unrecognised k d
  | noClass : d.devnode = some node → k.capabilities node = .ok s → s.deviceClass = .none →
    Unrecognised k d

/-- A reason for which a dispatch leaves the device alone. -/
inductive GivesUp (k : Classifier) (d : Device) : Prop
  | noRule : (∀ r ∈ k.rules.rules, r.accepts d.syspath = false) → GivesUp k d
  | deferred : k.rules.IsFirst d.syspath r → r.skipIfEvdev = true →
    k.rules.evdevEnabled = true → GivesUp k d
  | unrecognised : k.rules.IsFirst d.syspath r → r.handler = .evdev → Unrecognised k d →
    GivesUp k d

variable {k : Classifier} {d : Device}

/-! ## The handlers -/

theorem event_of_unrecognised (h : Unrecognised k d) :
    (k.event d).verdict = none ∧ (k.event d).device = d := by
  cases h with
  | noNode hnode => simp only [event, hnode, and_self]
  | probeFailed hnode hprobe => simp only [event, hnode, hprobe, and_self]
  | noClass hnode hprobe hclass =>
    simp only [event, hnode, hprobe, hclass, DeviceClass.isNone, decide_true, if_true, and_self]

/-- A probe that recognises the device gives it the class of the snapshot and a parent. -/
theorem event_of_recognised {node : String} {s : Snapshot} (hnode : d.devnode = some node)
    (hprobe : k.capabilities node = .ok s) (hclass : s.deviceClass ≠ .none) :
    (k.event d).verdict = some s.deviceClass ∧
      (k.event d).device =
        (d.mark s.deviceClass).attachParent (eventParent k.virtualSysname s) := by
  simp only [event, hnode, hprobe, DeviceClass.isNone, hclass, decide_false, Bool.false_eq_true,
    if_false, and_self]

theorem unrecognised_or_recognised (k : Classifier) (d : Device) :
    Unrecognised k d ∨ ∃ node s, d.devnode = some node ∧ k.capabilities node = .ok s ∧
      s.deviceClass ≠ .none := by
  cases hnode : d.devnode with
  | none => exact .inl (.noNode hnode)
  | some node =>
    cases hprobe : k.capabilities node with
    | error e => exact .inl (.probeFailed hnode hprobe)
    | ok s =>
      by_cases hclass : s.deviceClass = .none
      · exact .inl (.noClass hnode hprobe hclass)
      · exact .inr ⟨node, s, rfl, hprobe, hclass⟩

theorem verdict_event_of_recognised (h : ¬ Unrecognised k d) :
    ∃ c, c ≠ .none ∧ (k.event d).verdict = some c := by
  rcases unrecognised_or_recognised k d with hprobe | ⟨node, s, hnode, hprobe, hclass⟩
  · exact absurd hprobe h
  · exact ⟨s.deviceClass, hclass, (event_of_recognised hnode hprobe hclass).1⟩

/-- The class that a handler knows its devices to have without a probe. -/
def knownClass? : Handler → Option DeviceClass
  | .evdev => none
  | .keyboard | .kbdmux => some .keyboard
  | .mouse | .sysmouse => some .mouse
  | .joystick => some .joystick
  | .touchpad => some .touchpad
  | .touchscreen => some .touchscreen

theorem knownClass?_eq_none_iff {h : Handler} : knownClass? h = none ↔ h = .evdev := by
  cases h <;> simp only [knownClass?, reduceCtorEq]

theorem ne_none_of_knownClass? {h : Handler} {c : DeviceClass} (hc : knownClass? h = some c) :
    c ≠ .none := by
  cases h <;> cases hc <;> exact nofun

theorem verdict_handle_of_knownClass? {h : Handler} {c : DeviceClass}
    (hc : knownClass? h = some c) : (k.handle h d).verdict = some c := by
  cases h <;> cases hc <;> simp only [handle, legacy, fixed]

/-! ## The dispatch -/

theorem dispatch_of_handlerFor_eq_none (h : k.rules.handlerFor d.syspath = none) :
    (k.dispatch d).verdict = none ∧ (k.dispatch d).device = d := by
  simp only [dispatch, h, and_self]

/-- A dispatch only adds to what the handler has to say. -/
theorem dispatch_of_handlerFor_eq_some {h : Handler} (hh : k.rules.handlerFor d.syspath = some h) :
    (k.dispatch d).verdict = (k.handle h d).verdict ∧
      (k.dispatch d).device = (k.handle h d).device := by
  simp only [dispatch, hh, and_self]

theorem dispatch_of_givesUp (h : GivesUp k d) :
    (k.dispatch d).verdict = none ∧ (k.dispatch d).device = d := by
  cases h with
  | noRule hrules =>
    exact dispatch_of_handlerFor_eq_none (RuleTable.handlerFor_eq_none_iff.mpr (.inl hrules))
  | @deferred r hr hskip henabled =>
    have hdefers : k.rules.defers r = true := RuleTable.defers_eq_true_iff.mpr ⟨hskip, henabled⟩
    exact dispatch_of_handlerFor_eq_none
      (RuleTable.handlerFor_eq_none_iff.mpr (.inr ⟨r, hr, hdefers⟩))
  | @unrecognised r hr hevdev hprobe =>
    cases hdefers : k.rules.defers r with
    | true =>
      exact dispatch_of_handlerFor_eq_none
        (RuleTable.handlerFor_eq_none_iff.mpr (.inr ⟨r, hr, hdefers⟩))
    | false =>
      have hh := RuleTable.handlerFor_eq_some_iff.mpr ⟨r, hr, hdefers, hevdev⟩
      obtain ⟨hverdict, hdevice⟩ := dispatch_of_handlerFor_eq_some hh
      rw [hverdict, hdevice]
      exact event_of_unrecognised hprobe

theorem verdict_dispatch_of_not_givesUp (h : ¬ GivesUp k d) :
    ∃ c, c ≠ .none ∧ (k.dispatch d).verdict = some c := by
  cases hh : k.rules.handlerFor d.syspath with
  | none =>
    rcases RuleTable.handlerFor_eq_none_iff.mp hh with hrules | ⟨r, hr, hdefers⟩
    · exact absurd (.noRule hrules) h
    · obtain ⟨hskip, henabled⟩ := RuleTable.defers_eq_true_iff.mp hdefers
      exact absurd (.deferred hr hskip henabled) h
  | some handler =>
    obtain ⟨r, hr, -, hhandler⟩ := RuleTable.handlerFor_eq_some_iff.mp hh
    rw [(dispatch_of_handlerFor_eq_some hh).1]
    cases hc : knownClass? handler with
    | none =>
      cases knownClass?_eq_none_iff.mp hc
      exact verdict_event_of_recognised fun hprobe => h (.unrecognised hr hhandler hprobe)
    | some c => exact ⟨c, ne_none_of_knownClass? hc, verdict_handle_of_knownClass? hc⟩

/-- A dispatch finds no class exactly when there is a reason to give up, and then it leaves the
device as it is; otherwise it finds a class other than `none`. -/
theorem dispatch_givesUp (k : Classifier) (d : Device) :
    ((k.dispatch d).verdict = none ↔ GivesUp k d) ∧
      (GivesUp k d → (k.dispatch d).device = d) ∧
      (¬ GivesUp k d → ∃ c, c ≠ .none ∧ (k.dispatch d).verdict = some c) := by
  refine ⟨⟨fun hnone => ?_, fun h => (dispatch_of_givesUp h).1⟩, fun h => (dispatch_of_givesUp h).2,
    verdict_dispatch_of_not_givesUp⟩
  refine Classical.byContradiction fun h => ?_
  obtain ⟨c, -, hc⟩ := verdict_dispatch_of_not_givesUp h
  rw [hnone] at hc
  cases hc

end InputUdev.Classifier

import InputUdev.DeviceClass
import InputUdev.Proofs.CodeSet.Contents

/-!
# The ladder of device classes over raw codes

`DeviceClass.ladder` decides the class of a device from the codes it reports, in any order and
number, without code sets and flags between. Main statement: the class of the flags read off the
code sets is that of the ladder, and the button flag that multitouch devices get for free decides
nothing (`classify_features_eq_ladder`). A device with a pen is a tablet whatever else it reports,
but for the one line of the ladder above that of tablets (`classify_of_pen`).
-/

namespace InputUdev.DeviceClass
open EventCode

/-- The class of a device that reports the given codes: the first line that applies decides. -/
def ladder (keys rel abs : List Nat) : DeviceClass :=
  if (∃ c ∈ abs, 0x2f ≤ c ∧ c < 0x40) ∧ ¬ (∃ c ∈ keys, 0x100 ≤ c ∧ c < 0x120) ∧ 0x120 ∈ keys then
    joystick
  else if (0 ∈ abs ∧ 1 ∈ abs) ∧ (0x140 ∈ keys ∨ 0x14b ∈ keys ∨ 0x14c ∈ keys) then tablet
  else if (0 ∈ abs ∧ 1 ∈ abs) ∧ (0x18 ∈ abs ∨ 0x14a ∈ keys) then
    if (∃ c ∈ keys, 0x110 ≤ c ∧ c ≤ 0x112) ∨ 0x145 ∈ keys then touchpad else touchscreen
  else if (0 ∈ abs ∧ 1 ∈ abs) ∧ (∃ c ∈ keys, 0x110 ≤ c ∧ c ≤ 0x112) ∧ ¬ (0 ∈ rel ∧ 1 ∈ rel) then
    touchscreen
  else if ∃ c ∈ keys, c < 0x100 then keyboard
  else if (∃ c ∈ keys, c < 0x120) ∨ (∃ c ∈ rel, c < 0x10) ∨ (∃ c ∈ abs, c < 0x40) then mouse
  else none

/-- The classification with the given answer to whether the device counts as having buttons. -/
def classifyWith (buttons : Bool) (f : Features) : DeviceClass :=
  let rest :=
    if f.hasKeys then keyboard
    else if f.hasRelAxes || f.hasAbsAxes || buttons then mouse
    else none
  if f.hasAbsAxes then (ofAbsolute f).getD rest else rest

theorem classify_eq_classifyWith (f : Features) :
    classify f = classifyWith (countsButtons f) f := rfl

/-- Only a device with absolute axes counts as having buttons that it does not report, and these
axes make it a mouse already. -/
theorem classifyWith_countsButtons (f : Features) :
    classifyWith (countsButtons f) f = classifyWith f.hasButtons f := by
  unfold classifyWith countsButtons
  by_cases h : f.hasAbsAxes = true
  · simp only [h, Bool.or_true, Bool.true_or]
  · rw [Bool.not_eq_true] at h
    simp only [h, Bool.false_and, Bool.or_false]

/-- The ladder over flags. The multitouch axes and the main axes are absolute axes, so that the
lines about them need not ask for those. -/
theorem classify_eq_of_flags {f : Features} (hmt : f.hasMultitouch = true → f.hasAbsAxes = true)
    (hxy : f.hasAbsXY = true → f.hasAbsAxes = true) :
    classify f =
      if f.hasMultitouch && (!f.hasButtons && f.hasJoystickButton) then joystick
      else if f.hasAbsXY && f.hasPen then tablet
      else if f.hasAbsXY && (f.hasPressure || f.hasTouch) then
        if f.hasLeftRightMiddle || f.hasToolFinger then touchpad else touchscreen
      else if f.hasAbsXY && (f.hasLeftRightMiddle && !f.hasRelXY) then touchscreen
      else if f.hasKeys then keyboard
      else if f.hasButtons || (f.hasRelAxes || f.hasAbsAxes) then mouse
      else none := by
  rw [classify_eq_classifyWith, classifyWith_countsButtons, classifyWith]
  by_cases habs : f.hasAbsAxes = true
  · simp only [habs, if_true, ofAbsolute, Bool.and_assoc, Bool.or_true, Bool.true_or]
    split
    · rfl
    cases f.hasAbsXY with
    | false => simp
    | true =>
      simp only [Bool.not_true, Bool.false_eq_true, if_false, Bool.true_and]
      split
      · rfl
      split
      · rfl
      rw [Bool.and_comm]
      split <;> rfl
  · have hmt' : f.hasMultitouch = false := Bool.eq_false_iff.mpr (habs ∘ hmt)
    have hxy' : f.hasAbsXY = false := Bool.eq_false_iff.mpr (habs ∘ hxy)
    simp only [habs, hmt', hxy', Bool.false_and, Bool.false_eq_true, if_false, Bool.or_false]
    rw [Bool.or_comm]

/-! ## The flags of a list of codes -/

section
variable (name : String) (phys : Option String) (id : EventId) (keys rel abs : List Nat)

/-- Each flag of a snapshot is a question about the codes it was made from. -/
theorem features_ofCodes :
    (Snapshot.ofCodes name phys id keys rel abs).features =
      { hasKeys := decide (∃ c ∈ keys, c < 0x100)
        hasButtons := decide (∃ c ∈ keys, 0x100 ≤ c ∧ c < 0x120)
        hasLeftRightMiddle := decide (∃ c ∈ keys, 0x110 ≤ c ∧ c ≤ 0x112)
        hasRelAxes := decide (∃ c ∈ rel, c < 0x10)
        hasAbsAxes := decide (∃ c ∈ abs, c < 0x40)
        hasMultitouch := decide (∃ c ∈ abs, 0x2f ≤ c ∧ c < 0x40)
        hasJoystickButton := decide (0x120 ∈ keys)
        hasPen := decide (0x140 ∈ keys ∨ 0x14b ∈ keys ∨ 0x14c ∈ keys)
        hasTouch := decide (0x14a ∈ keys)
        hasToolFinger := decide (0x145 ∈ keys)
        hasAbsXY := decide (0 ∈ abs ∧ 1 ∈ abs)
        hasPressure := decide (0x18 ∈ abs)
        hasRelXY := decide (0 ∈ rel ∧ 1 ∈ rel) } := by
  simp (disch := decide) only [Snapshot.features, Snapshot.ofCodes, CodeSet.contains_ofList_of_lt,
    CodeSet.anyIn_ofList_of_le, CodeSet.any_ofList]
  have hmiddle (c : Nat) : c < btnMiddle + 1 ↔ c ≤ 0x112 := Nat.lt_succ_iff
  simp only [Nat.zero_le, true_and, hmiddle, Bool.decide_or, Bool.decide_and, Bool.or_assoc]
  rfl

/-- Where no key is a key proper, the keys below the joystick button are buttons. -/
theorem exists_button_iff (h : ¬ ∃ c ∈ keys, c < 0x100) :
    (∃ c ∈ keys, 0x100 ≤ c ∧ c < 0x120) ↔ ∃ c ∈ keys, c < 0x120 := by
  refine exists_congr fun c => and_congr_right fun hc => and_iff_right_of_imp fun _ => ?_
  exact Nat.not_lt.mp fun hlt => h ⟨c, hc, hlt⟩

/-- The class of a device is that of the ladder over the codes it reports, and the buttons that a
multitouch device counts as having decide nothing. -/
theorem classify_features_eq_ladder :
    classify (Snapshot.ofCodes name phys id keys rel abs).features = ladder keys rel abs ∧
      ∀ f, classifyWith (countsButtons f) f = classify f ∧
        classifyWith f.hasButtons f = classify f := by
  refine ⟨?_, fun f => ⟨rfl, (classifyWith_countsButtons f).symm⟩⟩
  have hmt : (∃ c ∈ abs, 0x2f ≤ c ∧ c < 0x40) → ∃ c ∈ abs, c < 0x40 :=
    fun ⟨c, hc, _, hlt⟩ => ⟨c, hc, hlt⟩
  have hxy : 0 ∈ abs ∧ 1 ∈ abs → ∃ c ∈ abs, c < 0x40 := fun h => ⟨0, h.1, by decide⟩
  rw [classify_eq_of_flags, features_ofCodes]
  · simp only [ladder, Bool.and_eq_true, Bool.or_eq_true, Bool.not_eq_true', decide_eq_true_eq,
      decide_eq_false_iff_not]
    by_cases hkeys : ∃ c ∈ keys, c < 0x100
    · simp only [hkeys, if_true]
    · simp only [exists_button_iff keys hkeys]
  · simpa [features_ofCodes] using hmt
  · simpa [features_ofCodes] using hxy

end

/-! ## Pens -/

/-- The device reports both main axes, and the pen tool or a stylus button. -/
structure ReportsPen (keys abs : List Nat) : Prop where
  xAxis : absX ∈ abs
  yAxis : absY ∈ abs
  pen : btnToolPen ∈ keys ∨ btnStylus ∈ keys ∨ btnStylus2 ∈ keys

/-- The device reports a multitouch axis and the joystick button, but no button below that. -/
structure ReportsJoystick (keys abs : List Nat) : Prop where
  multitouch : ∃ c ∈ abs, absMtSlot ≤ c ∧ c < absCount
  joystick : btnJoystick ∈ keys
  no_button : ¬ ∃ c ∈ keys, btnMisc ≤ c ∧ c < btnJoystick

/-- Only the question for joysticks comes before that for pens. -/
theorem classify_of_pen_flags {f : Features} (habs : f.hasAbsAxes = true) (hxy : f.hasAbsXY = true)
    (hpen : f.hasPen = true) :
    classify f =
      if f.hasMultitouch && !f.hasButtons && f.hasJoystickButton then joystick else tablet := by
  simp only [classify, ofAbsolute, habs, hxy, hpen, Bool.not_true, Bool.false_eq_true, if_true,
    if_false]
  split <;> rfl

section
variable {keys abs : List Nat}

theorem joystick_flags_iff (name : String) (phys : Option String) (id : EventId) (rel : List Nat) :
    let f := (Snapshot.ofCodes name phys id keys rel abs).features
    (f.hasMultitouch && !f.hasButtons && f.hasJoystickButton) = true ↔
      ReportsJoystick keys abs := by
  rw [features_ofCodes]
  simp only [Bool.and_eq_true, Bool.not_eq_true', decide_eq_true_eq, decide_eq_false_iff_not]
  constructor
  · rintro ⟨⟨hmt, hbutton⟩, hjoystick⟩
    exact ⟨hmt, hjoystick, hbutton⟩
  · rintro ⟨hmt, hjoystick, hbutton⟩
    exact ⟨⟨hmt, hbutton⟩, hjoystick⟩

/-- A device that reports a pen is a tablet whatever else it reports, unless that makes it a
joystick first. -/
theorem classify_of_pen (name : String) (phys : Option String) (id : EventId) (rel : List Nat)
    (h : ReportsPen keys abs) :
    (¬ ReportsJoystick keys abs →
      classify (Snapshot.ofCodes name phys id keys rel abs).features = tablet) ∧
    (ReportsJoystick keys abs →
      classify (Snapshot.ofCodes name phys id keys rel abs).features = joystick) := by
  have hflags := @joystick_flags_iff keys abs name phys id rel
  rw [classify_of_pen_flags]
  · exact ⟨fun hnot => if_neg fun hf => hnot (hflags.mp hf),
      fun hjoystick => if_pos (hflags.mpr hjoystick)⟩
  all_goals rw [features_ofCodes]
  · exact decide_eq_true ⟨absX, h.xAxis, by decide⟩
  · exact decide_eq_true ⟨h.xAxis, h.yAxis⟩
  · exact decide_eq_true h.pen

/-- A stylus beside touch, a finger tool, keys, mouse buttons, relative axes and multitouch. -/
theorem classify_of_pen_among_others :
    ReportsPen [0x1e, 0x110, 0x14b, 0x14a, 0x145, 0x120] [0x35, 0x18, 1, 0] ∧
    ¬ ReportsJoystick [0x1e, 0x110, 0x14b, 0x14a, 0x145, 0x120] [0x35, 0x18, 1, 0] ∧
    classify (Snapshot.ofCodes "" Option.none {} [0x1e, 0x110, 0x14b, 0x14a, 0x145, 0x120] [0, 1]
      [0x35, 0x18, 1, 0]).features = tablet := by
  have hpen : ReportsPen [0x1e, 0x110, 0x14b, 0x14a, 0x145, 0x120] [0x35, 0x18, 1, 0] :=
    ⟨by decide, by decide, by decide⟩
  have hnot : ¬ ReportsJoystick [0x1e, 0x110, 0x14b, 0x14a, 0x145, 0x120] [0x35, 0x18, 1, 0] :=
    fun hjoystick => hjoystick.no_button ⟨0x110, by decide⟩
  exact ⟨hpen, hnot, (classify_of_pen "" Option.none {} [0, 1] hpen).1 hnot⟩

/-- With the joystick button and a multitouch axis a pen is taken for a joystick. -/
theorem classify_pen_with_joystick_button :
    ReportsPen [0x140, 0x120] [0, 1, 0x2f] ∧
    classify (Snapshot.ofCodes "Pen" Option.none {} [0x140, 0x120] [] [0, 1, 0x2f]).features =
      joystick := by
  refine ⟨⟨by decide, by decide, by decide⟩, ?_⟩
  decide +kernel

end

end InputUdev.DeviceClass

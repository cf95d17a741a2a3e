import InputUdev.Proofs.Glob.Acceptance
import InputUdev.Proofs.RuleTable.FirstMatch

/-!
# Tables put together from lists of rules

If a list of rules is followed by another, the first list answers for each path that one of its
rules accepts, also when it leaves the path to evdev, and the second list for all others. What a
table says of a path is told by its first rule for the path (`AgreeAt.of_firstMatch`), and so it
stays when other rules are taken out or put in (`Edited.firstMatch_eq`). Main statement:
`RuleTable.append_agrees`. An invalid rule accepts no path, and the rules that are made with a
warning are the invalid ones (`Rule.warnings_eq_nil_iff`).
-/

namespace InputUdev

/-- A bracket of the pattern holds a reversed range. -/
def Rule.Invalid (r : Rule) : Prop :=
  ∃ ps, Glob.Cut r.pattern.toList ps ∧ ¬ Glob.BracketsOrdered ps

theorem Rule.Invalid.accepts_eq_false {r : Rule} (h : r.Invalid) (path : String) :
    r.accepts path = false := by
  obtain ⟨ps, hps, hreversed⟩ := h
  exact Bool.eq_false_iff.mpr fun hacc => hreversed (hps.accepts_iff.mp hacc).1

theorem Rule.Invalid.warnings_eq {r : Rule} (h : r.Invalid) :
    r.warnings = [⟨.warn, "invalid device pattern " ++ Text.quote r.pattern ++ ": " ++
      "invalid character class range, the start must be <= the end"⟩] := by
  obtain ⟨ps, hps, hreversed⟩ := h
  rw [Rule.warnings, hps.matcher_eq_error hreversed]
  rfl

/-- A rule is made without a warning unless a bracket of its pattern holds a reversed range. -/
theorem Rule.warnings_eq_nil_iff {r : Rule} : r.warnings = [] ↔ ¬ r.Invalid := by
  constructor
  · intro h hinvalid
    rw [hinvalid.warnings_eq] at h
    cases h
  · intro h
    obtain ⟨ps, hps⟩ := Glob.exists_cut r.pattern.toList
    obtain ⟨ns, hns⟩ := Glob.exists_compiles (not_not.mp fun hreversed => h ⟨ps, hps, hreversed⟩)
    rw [Rule.warnings, hps.matcher_eq_ok hns]

theorem RuleTable.warnings_eq_nil_iff {t : RuleTable} :
    t.warnings = [] ↔ ∀ r ∈ t.rules, ¬ r.Invalid := by
  simp only [warnings, List.flatMap_eq_nil_iff, Rule.warnings_eq_nil_iff]

namespace RuleTable

/-- The tables say the same of the path. -/
structure AgreeAt (path : String) (t t' : RuleTable) : Prop where
  ruleFor : t.ruleFor path = t'.ruleFor path
  subsystemFor : t.subsystemFor path = t'.subsystemFor path
  handlerFor : t.handlerFor path = t'.handlerFor path
  pattern : (t.ruleFor path).map (·.pattern) = (t'.ruleFor path).map (·.pattern)
  lookupMessages : t.lookupMessages path = t'.lookupMessages path

/-- The second list is made from the first by taking out and putting in rules that do not accept
the path. -/
inductive Edited (path : String) : List Rule → List Rule → Prop
  | nil : Edited path [] []
  | keep : Edited path rs rs' → Edited path (r :: rs) (r :: rs')
  | takeOut : r.accepts path = false → Edited path rs rs' → Edited path (r :: rs) rs'
  | putIn : r.accepts path = false → Edited path rs rs' → Edited path rs (r :: rs')

variable {t t' : RuleTable} {front back rs rs' : List Rule} {r : Rule} {on : Bool} {path : String}

theorem AgreeAt.of_firstMatch (hfirst : t.firstMatch path = t'.firstMatch path)
    (hon : t.evdevEnabled = t'.evdevEnabled) : AgreeAt path t t' := by
  have hdefers : t.defers = t'.defers := by
    funext r
    rw [defers, defers, hon]
  have hrule : t.ruleFor path = t'.ruleFor path := by
    rw [RuleTable.ruleFor, RuleTable.ruleFor, hfirst, hdefers]
  constructor
  case ruleFor => exact hrule
  case subsystemFor => rw [RuleTable.subsystemFor, RuleTable.subsystemFor, hrule]
  case handlerFor => rw [RuleTable.handlerFor, RuleTable.handlerFor, hrule]
  case pattern => rw [hrule]
  case lookupMessages => rw [RuleTable.lookupMessages, RuleTable.lookupMessages, hfirst, hdefers]

theorem firstMatch_cons :
    firstMatch ⟨r :: rs, on⟩ path =
      if r.accepts path = true then some r else firstMatch ⟨rs, on⟩ path := by
  rw [firstMatch, List.find?_cons]
  cases r.accepts path <;> rfl

theorem firstMatch_append :
    firstMatch ⟨front ++ back, on⟩ path =
      (firstMatch ⟨front, on⟩ path).or (firstMatch ⟨back, on⟩ path) :=
  List.find?_append

theorem firstMatch_append_of_accepts (h : ∃ r ∈ front, r.accepts path = true) :
    firstMatch ⟨front ++ back, on⟩ path = firstMatch ⟨front, on⟩ path := by
  rw [firstMatch_append]
  cases hfirst : firstMatch ⟨front, on⟩ path with
  | some r => rfl
  | none =>
    obtain ⟨r, hr, hacc⟩ := h
    rw [firstMatch_eq_none_iff.mp hfirst r hr] at hacc
    cases hacc

theorem firstMatch_append_of_not_accepts (h : ∀ r ∈ front, r.accepts path = false) :
    firstMatch ⟨front ++ back, on⟩ path = firstMatch ⟨back, on⟩ path := by
  rw [firstMatch_append, firstMatch_eq_none_iff.mpr h, Option.none_or]

theorem Edited.firstMatch_eq (h : Edited path rs rs') :
    firstMatch ⟨rs, on⟩ path = firstMatch ⟨rs', on⟩ path := by
  induction h with
  | nil => rfl
  | keep _ ih => rw [firstMatch_cons, firstMatch_cons, ih]
  | takeOut hacc _ ih => rw [firstMatch_cons, if_neg (by simp [hacc]), ih]
  | putIn hacc _ ih => rw [firstMatch_cons, if_neg (by simp [hacc]), ih]

/-- A list of rules followed by another answers as the first for each path that one of its rules
accepts, and as the second for all others. A path that the first list leaves to evdev is not taken
over by the second, and rules that do not accept the path, such as those that are invalid, make no
difference. -/
theorem append_agrees (front back : List Rule) (on : Bool) (path : String) :
    ((∃ r ∈ front, r.accepts path = true) → AgreeAt path ⟨front ++ back, on⟩ ⟨front, on⟩) ∧
    ((∀ r ∈ front, r.accepts path = false) → AgreeAt path ⟨front ++ back, on⟩ ⟨back, on⟩) ∧
    (∀ r, IsFirst ⟨front, on⟩ path r → defers ⟨front, on⟩ r = true →
      ruleFor ⟨front ++ back, on⟩ path = none) ∧
    (∀ rs, Edited path front rs → AgreeAt path ⟨front, on⟩ ⟨rs, on⟩) ∧
    ∀ r : Rule, r.Invalid → r.accepts path = false := by
  have happend (h : ∃ r ∈ front, r.accepts path = true) :
      AgreeAt path ⟨front ++ back, on⟩ ⟨front, on⟩ :=
    .of_firstMatch (firstMatch_append_of_accepts h) rfl
  refine ⟨happend, fun h => .of_firstMatch (firstMatch_append_of_not_accepts h) rfl,
    fun r hr hdefers => ?_, fun rs h => .of_firstMatch h.firstMatch_eq rfl,
    fun r h => h.accepts_eq_false path⟩
  rw [(happend ⟨r, hr.mem, hr.accepts⟩).ruleFor]
  exact ruleFor_eq_none_iff.mpr (.inr ⟨r, hr, hdefers⟩)

end RuleTable
end InputUdev

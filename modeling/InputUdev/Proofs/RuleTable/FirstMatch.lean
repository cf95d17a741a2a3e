import InputUdev.Rule

/-!
# The first rule that accepts a path

`RuleTable.IsFirst` says where in a table the deciding rule stands: it accepts the path, and no rule
before it does. The lookups of a table are read off it: no handler is found exactly when there is no
first rule or the first rule is left to evdev (`handlerFor_eq_none_iff`), and the handler that is
found is that of the first rule (`handlerFor_eq_some_iff`).
-/

namespace InputUdev.RuleTable

variable {t : RuleTable} {path : String} {r : Rule}

/-- The rule accepts the path, and no rule before it does. -/
def IsFirst (t : RuleTable) (path : String) (r : Rule) : Prop :=
  ∃ before after, t.rules = before ++ r :: after ∧ (∀ q ∈ before, q.accepts path = false) ∧
    r.accepts path = true

theorem IsFirst.mem (h : t.IsFirst path r) : r ∈ t.rules := by
  obtain ⟨before, after, hrules, -, -⟩ := h
  rw [hrules]
  exact List.mem_append_cons_self

theorem IsFirst.accepts (h : t.IsFirst path r) : r.accepts path = true := by
  obtain ⟨before, after, -, -, hacc⟩ := h
  exact hacc

theorem firstMatch_eq_some_iff : t.firstMatch path = some r ↔ t.IsFirst path r := by
  rw [firstMatch, List.find?_eq_some_iff_append]
  constructor
  · rintro ⟨hr, before, after, hrules, hbefore⟩
    exact ⟨before, after, hrules, fun q hq => by simpa using hbefore q hq, hr⟩
  · rintro ⟨before, after, hrules, hbefore, hr⟩
    exact ⟨hr, before, after, hrules, fun q hq => by simpa using hbefore q hq⟩

theorem firstMatch_eq_none_iff :
    t.firstMatch path = none ↔ ∀ r ∈ t.rules, r.accepts path = false := by
  simp only [firstMatch, List.find?_eq_none, Bool.not_eq_true]

theorem IsFirst.unique {q : Rule} (hr : t.IsFirst path r) (hq : t.IsFirst path q) : r = q := by
  rw [← firstMatch_eq_some_iff] at hr hq
  exact Option.some.inj (hr.symm.trans hq)

/-- No two of the rules accept the path. -/
def NoOverlap (path : String) (rules : List Rule) : Prop :=
  rules.Pairwise fun q r => ¬ (q.accepts path = true ∧ r.accepts path = true)

/-- If no two rules accept the path, the place in the table does not matter. -/
theorem NoOverlap.isFirst_iff (h : NoOverlap path t.rules) :
    t.IsFirst path r ↔ r ∈ t.rules ∧ r.accepts path = true := by
  refine ⟨fun hr => ⟨hr.mem, hr.accepts⟩, ?_⟩
  rintro ⟨hmem, hr⟩
  obtain ⟨before, after, hrules⟩ := List.append_of_mem hmem
  rw [NoOverlap, hrules, List.pairwise_append] at h
  refine ⟨before, after, hrules, fun q hq => ?_, hr⟩
  exact Bool.eq_false_iff.mpr fun hqacc => h.2.2 q hq r List.mem_cons_self ⟨hqacc, hr⟩

theorem defers_eq_true_iff :
    t.defers r = true ↔ r.skipIfEvdev = true ∧ t.evdevEnabled = true := by
  rw [defers, Bool.and_eq_true]

theorem ruleFor_eq_some_iff :
    t.ruleFor path = some r ↔ t.IsFirst path r ∧ t.defers r = false := by
  simp only [ruleFor, Option.filter_eq_some_iff, firstMatch_eq_some_iff, Bool.not_eq_true']

theorem ruleFor_eq_none_iff :
    t.ruleFor path = none ↔
      (∀ r ∈ t.rules, r.accepts path = false) ∨ ∃ r, t.IsFirst path r ∧ t.defers r = true := by
  rw [ruleFor, Option.filter_eq_none_iff, ← firstMatch_eq_none_iff]
  cases h : t.firstMatch path with
  | none => simp
  | some r =>
    have hr := firstMatch_eq_some_iff.mp h
    constructor
    · intro H
      exact .inr ⟨r, hr, by simpa using H⟩
    · rintro (H | ⟨q, hq, hd⟩)
      · cases H
      · cases hr.unique hq
        simpa using hd

theorem handlerFor_eq_none_iff :
    t.handlerFor path = none ↔
      (∀ r ∈ t.rules, r.accepts path = false) ∨ ∃ r, t.IsFirst path r ∧ t.defers r = true := by
  rw [handlerFor, Option.map_eq_none_iff, ruleFor_eq_none_iff]

theorem handlerFor_eq_some_iff {h : Handler} :
    t.handlerFor path = some h ↔
      ∃ r, t.IsFirst path r ∧ t.defers r = false ∧ r.handler = h := by
  simp only [handlerFor, Option.map_eq_some_iff, ruleFor_eq_some_iff, and_assoc]

end InputUdev.RuleTable

import InputUdev.Proofs.RuleTable.Composition
import InputUdev.Proofs.RuleTable.Standard

/-!
# The order of the rules

If no two rules of a table accept a path, their order does not matter for it
(`RuleTable.NoOverlap.firstMatch_of_perm`). Main statement: this is so with the standard rules below
every root without wildcards and opening brackets (`RuleTable.standard_permutation`).
-/

namespace InputUdev.RuleTable
open Glob

variable {t t' : RuleTable} {rs rs' : List Rule} {path : String}

theorem NoOverlap.perm (h : NoOverlap path rs) (hperm : rs.Perm rs') : NoOverlap path rs' :=
  hperm.pairwise h fun hqr => mt And.symm hqr

theorem NoOverlap.firstMatch_of_perm (h : NoOverlap path t.rules) (hperm : t'.rules.Perm t.rules) :
    t'.firstMatch path = t.firstMatch path := by
  refine Option.ext fun r => ?_
  rw [firstMatch_eq_some_iff, firstMatch_eq_some_iff, h.isFirst_iff,
    (h.perm hperm.symm).isFirst_iff, hperm.mem_iff]

theorem NoOverlap.countP_le_one (h : NoOverlap path rs) : rs.countP (·.accepts path) ≤ 1 := by
  induction rs with
  | nil => exact Nat.zero_le 1
  | cons r rs ih =>
    obtain ⟨hr, hrs⟩ := List.pairwise_cons.mp h
    by_cases hacc : r.accepts path = true
    · have hnone : rs.countP (·.accepts path) = 0 :=
        List.countP_eq_zero.mpr fun q hq hqacc => hr q hq ⟨hacc, hqacc⟩
      exact Nat.le_of_eq (by rw [List.countP_cons, if_pos hacc, hnone])
    · rw [List.countP_cons, if_neg hacc]
      exact ih hrs

/-- At most one of the twelve standard rules accepts a path, and so they say the same of it in every
order. -/
theorem standard_permutation (root : String) (hroot : Plain root.toList) (path : String) :
    (∀ on, (standard root on).rules.length = 12 ∧
      (standard root on).rules.countP (·.accepts path) ≤ 1) ∧
    ∀ on rs, rs.Perm (standard root on).rules → AgreeAt path ⟨rs, on⟩ (standard root on) := by
  have hno (on : Bool) : NoOverlap path (standard root on).rules :=
    standard_noOverlap hroot.trimSlashes
  refine ⟨fun on => ⟨rfl, (hno on).countP_le_one⟩, fun on rs hperm => ?_⟩
  exact .of_firstMatch ((hno on).firstMatch_of_perm hperm) rfl

/-- The standard rules from the last to the first. -/
theorem standard_permutation_reversed :
    Plain "/dev//".toList ∧
    (standard "/dev//" false).rules.reverse.Perm (standard "/dev//" false).rules ∧
    (standard "/dev//" false).rules.countP (·.accepts "/dev/ums7") ≤ 1 ∧
    handlerFor ⟨(standard "/dev//" false).rules.reverse, false⟩ "/dev/ums7" = some .mouse := by
  have hroot : Plain "/dev//".toList := by simp [Plain]
  have hperm := List.reverse_perm (standard "/dev//" false).rules
  obtain ⟨hone, hagree⟩ := standard_permutation "/dev//" hroot "/dev/ums7"
  refine ⟨hroot, hperm, (hone false).2, ?_⟩
  rw [(hagree false _ hperm).handlerFor, handlerFor_standard_iff hroot.trimSlashes]
  exact ⟨"ums7", by decide, .ums rfl ⟨'7', [], by decide, by decide, by simp⟩⟩

end InputUdev.RuleTable

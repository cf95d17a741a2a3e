import InputUdev.Proofs.Glob.Spelling

/-!
# Plain text in patterns

A text without wildcards and opening brackets stands for itself in a pattern
(`Glob.spells_texts_append_iff`), whatever follows it (`Glob.Plain.cut`).
-/

namespace InputUdev.Glob

/-- There is no wildcard and no opening bracket in the text. -/
def Plain (cs : List Char) : Prop := ∀ c ∈ cs, c ≠ '*' ∧ c ≠ '?' ∧ c ≠ '['

/-- The parts of a plain text. -/
def texts (cs : List Char) : List Part := cs.map fun c => .text [c]

variable {cs ds rest text : List Char} {ps : List Part}

theorem plain_append_iff : Plain (cs ++ ds) ↔ Plain cs ∧ Plain ds := List.forall_mem_append

theorem Plain.cut (h : Plain cs) (hrest : Cut rest ps) : Cut (cs ++ rest) (texts cs ++ ps) := by
  induction cs with
  | nil => exact hrest
  | cons c cs ih =>
    obtain ⟨⟨hstar, hquestion, hbracket⟩, hcs⟩ := List.forall_mem_cons.mp h
    exact .char hstar hquestion hbracket (ih hcs)

theorem spells_texts_append_iff {D : Dialect} :
    Spells D (texts cs ++ ps) text ↔ ∃ rest, text = cs ++ rest ∧ Spells D ps rest := by
  induction cs generalizing text with
  | nil => simp [texts]
  | cons c cs ih =>
    rw [texts, List.map_cons, List.cons_append, spells_cons_iff]
    constructor
    · rintro ⟨_, _, rfl, rfl, h⟩
      obtain ⟨rest, rfl, hrest⟩ := ih.mp h
      exact ⟨rest, rfl, hrest⟩
    · rintro ⟨rest, rfl, hrest⟩
      exact ⟨[c], cs ++ rest, rfl, rfl, ih.mpr ⟨rest, rfl, hrest⟩⟩

end InputUdev.Glob

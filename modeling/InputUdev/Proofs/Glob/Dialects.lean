import InputUdev.Proofs.Glob.Spelling
import Mathlib.Algebra.GroupWithZero.Nat

/-!
# One pattern in two dialects

When all texts over an alphabet that a pattern spells in one dialect are spelled in another as well.
Main statement: unless the pattern spells no such text at all, this is so exactly when each single
part stands for no fewer pieces in the other dialect (`spells_subset_iff`). A part cannot make up
for another: its pieces are told apart in the shortest texts that the pattern spells, and the
characters of the wildcards in texts that repeat one of them more often than all other parts can take
it.
-/

namespace InputUdev.Glob

variable {D E : Dialect} {p : Part} {ps qs : List Part} {text piece : List Char}

/-- The least number of characters for which the part stands. -/
def Part.width : Part → Nat
  | .run => 0
  | .any | .bracket _ _ => 1
  | .text cs => cs.length

def width (ps : List Part) : Nat := (ps.map Part.width).sum

theorem width_cons : width (p :: ps) = p.width + width ps := List.sum_cons

namespace Part.StandsFor

theorem length_eq (h : p.StandsFor D piece) (hp : p ≠ .run) : piece.length = p.width := by
  cases p with
  | run => exact absurd rfl hp
  | any => obtain ⟨c, rfl, -⟩ := h; rfl
  | bracket negated members => obtain ⟨c, rfl, -⟩ := h; rfl
  | text cs => rw [show piece = cs from h]; rfl

theorem width_le (h : p.StandsFor D piece) : p.width ≤ piece.length := by
  by_cases hp : p = .run
  · subst hp; exact Nat.zero_le _
  · exact Nat.le_of_eq (h.length_eq hp).symm

theorem exists_short (h : p.StandsFor D piece) :
    ∃ short ⊆ piece, p.StandsFor D short ∧ short.length = p.width := by
  by_cases hp : p = .run
  · subst hp
    exact ⟨[], List.nil_subset _, by simp [StandsFor], rfl⟩
  · exact ⟨piece, List.Subset.refl _, h, h.length_eq hp⟩

theorem count_le {c : Char} (h : p.StandsFor D piece) (hc : ¬ D.wild c) :
    piece.count c ≤ p.width := by
  by_cases hp : p = .run
  · subst hp
    rw [List.count_eq_zero.mpr fun hmem => hc (h c hmem)]
    exact Nat.zero_le _
  · exact h.length_eq hp ▸ List.count_le_length

end Part.StandsFor

namespace Spells

theorem width_le (h : Spells D ps text) : width ps ≤ text.length := by
  induction ps generalizing text with
  | nil => exact Nat.zero_le _
  | cons p ps ih =>
    obtain ⟨piece, rest, rfl, hp, hps⟩ := spells_cons_iff.mp h
    rw [width_cons, List.length_append]
    exact Nat.add_le_add hp.width_le (ih hps)

/-- A text can be shortened to the width of the parts, by leaving out what runs take. -/
theorem exists_short (h : Spells D ps text) :
    ∃ short ⊆ text, Spells D ps short ∧ short.length = width ps := by
  induction ps generalizing text with
  | nil => exact ⟨[], List.nil_subset _, spells_nil_iff.mpr rfl, rfl⟩
  | cons p ps ih =>
    obtain ⟨piece, rest, rfl, hp, hps⟩ := spells_cons_iff.mp h
    obtain ⟨piece', hsub, hp', hlen⟩ := hp.exists_short
    obtain ⟨rest', hsub', hps', hlen'⟩ := ih hps
    refine ⟨piece' ++ rest', ?_, spells_cons_iff.mpr ⟨_, _, rfl, hp', hps'⟩, ?_⟩
    · exact List.append_subset.mpr ⟨List.subset_append_of_subset_left _ hsub,
        List.subset_append_of_subset_right _ hsub'⟩
    · rw [List.length_append, hlen, hlen', width_cons]

/-- A character that no wildcard takes occurs at most once for each character of the width. -/
theorem count_le {c : Char} (h : Spells D ps text) (hc : ¬ D.wild c) :
    text.count c ≤ width ps := by
  induction ps generalizing text with
  | nil => rw [spells_nil_iff.mp h]; exact Nat.zero_le _
  | cons p ps ih =>
    obtain ⟨piece, rest, rfl, hp, hps⟩ := spells_cons_iff.mp h
    rw [List.count_append, width_cons]
    exact Nat.add_le_add (hp.count_le hc) (ih hps)

end Spells

theorem spells_append_iff :
    Spells D (ps ++ qs) text ↔
      ∃ front rest, text = front ++ rest ∧ Spells D ps front ∧ Spells D qs rest := by
  induction ps generalizing text with
  | nil => simp [spells_nil_iff]
  | cons p ps ih =>
    simp only [List.cons_append, spells_cons_iff, ih]
    constructor
    · rintro ⟨piece, _, rfl, hpiece, mid, rest, rfl, hmid, hrest⟩
      exact ⟨piece ++ mid, rest, (List.append_assoc ..).symm, ⟨piece, mid, rfl, hpiece, hmid⟩,
        hrest⟩
    · rintro ⟨_, rest, rfl, ⟨piece, mid, rfl, hpiece, hmid⟩, hrest⟩
      exact ⟨piece, mid ++ rest, List.append_assoc .., hpiece, mid, rest, rfl, hmid, hrest⟩

section
variable {A : Char → Prop}

theorem Spells.mono (h : ∀ p ∈ ps, ∀ piece : List Char, (∀ c ∈ piece, A c) →
    p.StandsFor D piece → p.StandsFor E piece) (htext : ∀ c ∈ text, A c)
    (hD : Spells D ps text) : Spells E ps text := by
  induction ps generalizing text with
  | nil => exact spells_nil_iff.mpr (spells_nil_iff.mp hD)
  | cons p ps ih =>
    obtain ⟨piece, rest, rfl, hp, hps⟩ := spells_cons_iff.mp hD
    obtain ⟨hpiece, hrest⟩ := List.forall_mem_append.mp htext
    exact spells_cons_iff.mpr ⟨piece, rest, rfl, h p (by simp) piece hpiece hp,
      ih (fun q hq => h q (List.mem_cons_of_mem _ hq)) hrest hps⟩

theorem standsFor_of_spells_subset
    (hsub : ∀ text : List Char, (∀ c ∈ text, A c) → Spells D ps text → Spells E ps text)
    (hne : ∃ text : List Char, (∀ c ∈ text, A c) ∧ Spells D ps text) (hp : p ∈ ps)
    (hpiece : ∀ c ∈ piece, A c) (hD : p.StandsFor D piece) : p.StandsFor E piece := by
  obtain ⟨qs, rs, rfl⟩ := List.append_of_mem hp
  obtain ⟨_, hA, hne⟩ := hne
  obtain ⟨front, _, rfl, hqs, hrest⟩ := spells_append_iff.mp hne
  obtain ⟨old, back, rfl, -, hrs⟩ := spells_cons_iff.mp hrest
  obtain ⟨front, hfront, hqs, hlen⟩ := hqs.exists_short
  obtain ⟨back, hback, hrs, hlen'⟩ := hrs.exists_short
  have hAfront : ∀ c ∈ front, A c := fun c hc => hA c (by simp [hfront hc])
  have hAback : ∀ c ∈ back, A c := fun c hc => hA c (by simp [hback hc])
  -- Any piece over the alphabet may stand between the shortest texts of the parts around it.
  have hbetween : ∀ mid : List Char, (∀ c ∈ mid, A c) → p.StandsFor D mid →
      Spells E (qs ++ p :: rs) (front ++ (mid ++ back)) := by
    intro mid hAmid hmid
    refine hsub _ ?_ (spells_append_iff.mpr ⟨front, _, rfl, hqs,
      spells_cons_iff.mpr ⟨mid, back, rfl, hmid, hrs⟩⟩)
    simp only [List.forall_mem_append]
    exact ⟨hAfront, hAmid, hAback⟩
  by_cases hrun : p = .run
  · subst hrun
    intro c hc
    refine Classical.byContradiction fun hwild => ?_
    let many := List.replicate (width (qs ++ .run :: rs) + 1) c
    have hmany : ∀ d ∈ many, d = c := fun d hd => List.eq_of_mem_replicate hd
    have hspells := hbetween many (fun d hd => hmany d hd ▸ hpiece c hc)
      (fun d hd => hmany d hd ▸ hD c hc)
    have hcount := hspells.count_le hwild
    rw [List.count_append, List.count_append, List.count_replicate_self] at hcount
    omega
  · obtain ⟨front', _, htext, hqs', hrest⟩ := spells_append_iff.mp (hbetween piece hpiece hD)
    obtain ⟨piece', back', rfl, hp', hrs'⟩ := spells_cons_iff.mp hrest
    -- Both cuts of the text have pieces of least length, so they are the same.
    have h₁ := hqs'.width_le
    have h₂ := hp'.length_eq hrun
    have h₃ := hrs'.width_le
    have h₄ := hD.length_eq hrun
    have hlength := congrArg List.length htext
    simp only [List.length_append] at hlength
    obtain ⟨-, hrest⟩ := List.append_inj htext (by omega)
    obtain ⟨rfl, -⟩ := List.append_inj hrest (by omega)
    exact hp'

/-- If the parts spell some text over an alphabet in one dialect, then another dialect has all such
texts exactly when it has all pieces over the alphabet for each part. -/
theorem spells_subset_iff (hne : ∃ text : List Char, (∀ c ∈ text, A c) ∧ Spells D ps text) :
    (∀ text : List Char, (∀ c ∈ text, A c) → Spells D ps text → Spells E ps text) ↔
      ∀ p ∈ ps, ∀ piece : List Char, (∀ c ∈ piece, A c) →
        p.StandsFor D piece → p.StandsFor E piece :=
  ⟨fun hsub _ hp _ hpiece hD => standsFor_of_spells_subset hsub hne hp hpiece hD,
    fun h _ htext hD => hD.mono h htext⟩

end

end InputUdev.Glob

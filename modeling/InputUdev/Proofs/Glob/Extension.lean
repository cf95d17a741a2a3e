import InputUdev.Proofs.Glob.PlainText
import InputUdev.Proofs.Glob.Dialects

/-!
# Patterns that go on

How the cut of a pattern changes when text is put after it. All of a pattern is settled but for a
bracket that is not closed (`Glob.Cut.exists_settled`); what follows such a bracket is literal text
until a closing bracket comes, which makes all of it the members of the bracket
(`Glob.exists_closes_append`). What a pattern spells begins with its text up to the first wildcard
or closed bracket (`Glob.Spells.startsWith_leadingText`), and is no longer than the pattern if all
runs are empty (`Glob.Cut.exists_short_spelling`).
-/

namespace InputUdev.Glob

variable {D : Dialect} {cs rest text front members after tail : List Char} {negated : Bool}
  {p : Part} {ps qs rs ts : List Part}

/-! ## Literal text -/

def Part.IsText (p : Part) : Prop := ∃ cs, p = .text cs

/-- The text of a pattern up to its first wildcard or closed bracket. -/
def leadingText : List Part → List Char
  | .text cs :: ps => cs ++ leadingText ps
  | _ => []

theorem leadingText_append (h : ∀ p ∈ ps, p.IsText) :
    leadingText (ps ++ qs) = leadingText ps ++ leadingText qs := by
  induction ps with
  | nil => rfl
  | cons p ps ih =>
    obtain ⟨⟨cs, rfl⟩, hps⟩ := List.forall_mem_cons.mp h
    rw [List.cons_append, leadingText, leadingText, ih hps, List.append_assoc]

theorem isText_texts : ∀ p ∈ texts cs, p.IsText := by
  intro p hp
  obtain ⟨c, -, rfl⟩ := List.mem_map.mp hp
  exact ⟨[c], rfl⟩

theorem Cut.leadingText_eq (h : Cut cs ps) (htext : ∀ p ∈ ps, p.IsText) : leadingText ps = cs := by
  induction h with
  | nil => rfl
  | run _ _ | any _ _ | bracket _ _ _ =>
    obtain ⟨_, hp⟩ := htext _ List.mem_cons_self
    cases hp
  | opening _ => simp [leadingText]
  | char _ _ _ _ ih =>
    rw [leadingText, ih fun q hq => htext q (List.mem_cons_of_mem _ hq)]
    rfl

theorem Spells.startsWith_leadingText (h : Spells D ps text) : leadingText ps <+: text := by
  induction ps generalizing text with
  | nil => exact List.nil_prefix
  | cons p ps ih =>
    obtain ⟨piece, rest, rfl, hp, hps⟩ := spells_cons_iff.mp h
    cases p with
    | text cs =>
      obtain rfl : piece = cs := hp
      exact (List.prefix_append_right_inj piece).mpr (ih hps)
    | run | any | bracket negated members => exact List.nil_prefix

theorem spells_leadingText (h : ∀ p ∈ ps, p.IsText) : Spells D ps (leadingText ps) := by
  induction ps with
  | nil => exact spells_nil_iff.mpr rfl
  | cons p ps ih =>
    obtain ⟨⟨cs, rfl⟩, hps⟩ := List.forall_mem_cons.mp h
    exact spells_cons_iff.mpr ⟨cs, _, rfl, rfl, ih hps⟩

theorem bracketsOrdered_append_iff :
    BracketsOrdered (ps ++ qs) ↔ BracketsOrdered ps ∧ BracketsOrdered qs := by
  simp only [BracketsOrdered, List.mem_append, or_imp, forall_and]

theorem bracketsOrdered_of_isText (h : ∀ p ∈ ps, p.IsText) : BracketsOrdered ps := by
  intro negated members hmem
  obtain ⟨cs, hcs⟩ := h _ hmem
  cases hcs

/-! ## Closing brackets -/

/-- Whether and how a bracket is closed does not depend on what follows it. -/
theorem Closes.exists_front (h : Closes text negated members after) :
    ∃ front, text = front ++ after ∧ ∀ rest, Closes (front ++ rest) negated members rest := by
  cases h with
  | @plain m ms _ hm hms =>
    refine ⟨m :: (ms ++ [']']), by simp, fun rest => ?_⟩
    simpa using Closes.plain hm hms
  | @negated ms m _ hms =>
    refine ⟨'!' :: m :: (ms ++ [']']), by simp, fun rest => ?_⟩
    simpa using Closes.negated hms

/-- A closing bracket in a text that goes on stands in the text, if there is none in the rest. -/
theorem exists_eq_append_closing (front : List Char) (h : text ++ rest = front ++ ']' :: after)
    (hrest : ']' ∉ rest) : ∃ after', text = front ++ ']' :: after' := by
  rcases List.append_eq_append_iff.mp h with ⟨mid, -, hmid⟩ | ⟨mid, htext, hmid⟩
  · exact absurd (by simp [hmid]) hrest
  · cases mid with
    | nil =>
      rw [List.nil_append] at hmid
      exact absurd (by simp [← hmid]) hrest
    | cons c mid =>
      cases hmid
      exact ⟨mid, htext⟩

theorem Closes.of_append (h : Closes (text ++ rest) negated members after) (hrest : ']' ∉ rest) :
    ∃ after', Closes text negated members after' := by
  generalize hfull : text ++ rest = full at h
  cases h with
  | @plain m ms _ hm hms =>
    obtain ⟨after', rfl⟩ := exists_eq_append_closing (m :: ms) hfull hrest
    exact ⟨after', .plain hm hms⟩
  | @negated ms m _ hms =>
    obtain ⟨after', rfl⟩ := exists_eq_append_closing ('!' :: m :: ms) hfull hrest
    exact ⟨after', .negated hms⟩

/-- What follows an open bracket closes it at the first closing bracket, unless it begins with one
or with a mark of negation. -/
theorem exists_closes_append (hopen : ∀ negated members after, ¬ Closes text negated members after)
    {c : Char} {ms : List Char} (hc : c ≠ '!') (hms : ']' ∉ c :: ms) (after : List Char) :
    ∃ negated members, Closes (text ++ c :: (ms ++ ']' :: after)) negated members after := by
  cases text with
  | nil => exact ⟨false, c :: ms, .plain hc (List.not_mem_of_not_mem_cons hms)⟩
  | cons d text =>
    by_cases hd : d = '!'
    · subst hd
      cases text with
      | nil => exact ⟨true, c :: ms, .negated (List.not_mem_of_not_mem_cons hms)⟩
      | cons m text =>
        have htext := not_mem_of_not_closes_negated hopen
        have hcloses : Closes ('!' :: m :: ((text ++ c :: ms) ++ ']' :: after)) true _ after :=
          .negated (List.not_mem_append htext hms)
        exact ⟨true, _, by simpa using hcloses⟩
    · have htext := not_mem_of_not_closes hd hopen
      have hcloses : Closes (d :: ((text ++ c :: ms) ++ ']' :: after)) false _ after :=
        .plain hd (List.not_mem_append htext hms)
      exact ⟨false, _, by simpa using hcloses⟩

/-! ## The settled part of a pattern -/

/-- The text is cut in one way, whatever follows it. -/
def Settled (cs : List Char) (ps : List Part) : Prop :=
  ∀ rest rs, Cut rest rs → Cut (cs ++ rest) (ps ++ rs)

/-- Nothing, or a bracket that is never closed. -/
inductive OpenTail : List Char → List Part → Prop
  | nothing : OpenTail [] []
  | opening {inner : List Char} : (∀ negated members after, ¬ Closes inner negated members after) →
    OpenTail ('[' :: inner) [.text ('[' :: inner)]

theorem Settled.cut (h : Settled cs ps) : Cut cs ps := by
  have hcut := h [] [] .nil
  rwa [List.append_nil, List.append_nil] at hcut

theorem Cut.exists_settled (h : Cut cs ps) :
    ∃ front qs tail ts, cs = front ++ tail ∧ ps = qs ++ ts ∧ Settled front qs ∧
      OpenTail tail ts := by
  induction h with
  | nil => exact ⟨[], [], [], [], rfl, rfl, fun _ _ h => h, .nothing⟩
  | run _ ih =>
    obtain ⟨front, qs, tail, ts, rfl, rfl, hsettled, htail⟩ := ih
    exact ⟨'*' :: front, .run :: qs, tail, ts, rfl, rfl,
      fun rest rs h => .run (hsettled rest rs h), htail⟩
  | any _ ih =>
    obtain ⟨front, qs, tail, ts, rfl, rfl, hsettled, htail⟩ := ih
    exact ⟨'?' :: front, .any :: qs, tail, ts, rfl, rfl,
      fun rest rs h => .any (hsettled rest rs h), htail⟩
  | @bracket text negated members _ _ hc _ ih =>
    obtain ⟨front, qs, tail, ts, rfl, rfl, hsettled, htail⟩ := ih
    obtain ⟨bracket, rfl, hbracket⟩ := hc.exists_front
    refine ⟨'[' :: (bracket ++ front), .bracket negated members :: qs, tail, ts, by simp, rfl,
      fun rest rs h => ?_, htail⟩
    have hcut := Cut.bracket (hbracket (front ++ rest)) (hsettled rest rs h)
    simpa using hcut
  | opening hopen => exact ⟨[], [], _, _, rfl, rfl, fun _ _ h => h, .opening hopen⟩
  | @char c _ _ h₁ h₂ h₃ _ ih =>
    obtain ⟨front, qs, tail, ts, rfl, rfl, hsettled, htail⟩ := ih
    exact ⟨c :: front, .text [c] :: qs, tail, ts, rfl, rfl,
      fun rest rs h => .char h₁ h₂ h₃ (hsettled rest rs h), htail⟩

/-- Plain text without a closing bracket leaves an open bracket open. -/
theorem OpenTail.exists_cut_append (h : OpenTail tail ts) (hrest : Plain rest)
    (hclose : ']' ∉ rest) : ∃ rs, Cut (tail ++ rest) rs ∧ ∀ p ∈ rs, p.IsText := by
  cases h with
  | nothing =>
    have hcut := hrest.cut .nil
    rw [List.append_nil, List.append_nil] at hcut
    exact ⟨texts rest, hcut, isText_texts⟩
  | opening hopen =>
    refine ⟨[.text ('[' :: (_ ++ rest))], .opening fun negated members after hc => ?_, ?_⟩
    · obtain ⟨after', hc'⟩ := hc.of_append hclose
      exact hopen _ _ _ hc'
    · intro p hp
      exact ⟨_, List.mem_singleton.mp hp⟩

/-! ## Short texts -/

/-- A pattern that spells any text spells one that is no longer than the pattern. If that is the
pattern itself, there are no wildcards and no closed brackets in it. -/
theorem Cut.exists_short_spelling (h : Cut cs ps) (htext : Spells .native ps text) :
    ∃ short, Spells .native ps short ∧ short.length ≤ cs.length ∧
      (short = cs → ∀ p ∈ ps, p.IsText) := by
  induction h generalizing text with
  | nil => exact ⟨[], spells_nil_iff.mpr rfl, Nat.le_refl _, by simp⟩
  | run _ ih =>
    obtain ⟨_, rest, rfl, -, hrest⟩ := spells_cons_iff.mp htext
    obtain ⟨short, hshort, hlen, -⟩ := ih hrest
    refine ⟨short, spells_cons_iff.mpr ⟨[], short, rfl, by simp [Part.StandsFor], hshort⟩, ?_, ?_⟩
    · exact Nat.le_succ_of_le hlen
    · rintro rfl
      exact absurd hlen (Nat.not_succ_le_self _)
  | any _ ih =>
    obtain ⟨_, rest, rfl, -, hrest⟩ := spells_cons_iff.mp htext
    obtain ⟨short, hshort, hlen, -⟩ := ih hrest
    have hwild : Part.any.StandsFor .native ['x'] := ⟨'x', rfl, by simp [Dialect.native]⟩
    refine ⟨'x' :: short, spells_cons_iff.mpr ⟨['x'], short, rfl, hwild, hshort⟩,
      Nat.succ_le_succ hlen, fun h => ?_⟩
    cases h
  | bracket hc _ ih =>
    obtain ⟨_, rest, rfl, ⟨c, rfl, hmem⟩, hrest⟩ := spells_cons_iff.mp htext
    obtain ⟨short, hshort, hlen, -⟩ := ih hrest
    have hafter := hc.length_lt
    refine ⟨c :: short, spells_cons_iff.mpr ⟨[c], short, rfl, ⟨c, rfl, hmem⟩, hshort⟩, ?_,
      fun h => ?_⟩
    · simp only [List.length_cons]
      omega
    · have hsame := congrArg List.length h
      simp only [List.length_cons] at hsame
      omega
  | opening _ =>
    refine ⟨_, spells_cons_iff.mpr ⟨_, [], rfl, rfl, spells_nil_iff.mpr rfl⟩, by simp, ?_⟩
    intro _ p hp
    exact ⟨_, List.mem_singleton.mp hp⟩
  | @char c _ _ _ _ _ _ ih =>
    obtain ⟨_, rest, rfl, rfl, hrest⟩ := spells_cons_iff.mp htext
    obtain ⟨short, hshort, hlen, hsame⟩ := ih hrest
    refine ⟨c :: short, spells_cons_iff.mpr ⟨[c], short, rfl, rfl, hshort⟩, Nat.succ_le_succ hlen,
      fun h => ?_⟩
    exact List.forall_mem_cons.mpr ⟨⟨[c], rfl⟩, hsame (List.cons.inj h).2⟩

end InputUdev.Glob

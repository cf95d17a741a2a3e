import InputUdev.Regex.Matching

/-!
# What a regular expression matches

`Regex.MatchesAt` says node by node what an expression matches at a place of a text: a beginning of
what comes after that place. Main statement: the matcher finds exactly the texts in which the nodes
match at some place (`Regex.isMatch_iff`).
-/

namespace InputUdev
namespace Regex

/-- The nodes match a beginning of the text `after`, which follows the text `before`. -/
inductive MatchesAt : List Node → List Char → List Char → Prop
  | nil : MatchesAt [] before after
  | start : MatchesAt ns [] after → MatchesAt (.start :: ns) [] after
  | stop : MatchesAt ns before [] → MatchesAt (.stop :: ns) before []
  | one : s.contains c = true → MatchesAt ns (before ++ [c]) after →
    MatchesAt (.one s :: ns) before (c :: after)
  | many : (∀ c ∈ piece, s.contains c = true) → MatchesAt ns (before ++ piece) after →
    MatchesAt (.many s :: ns) before (piece ++ after)

section
variable {ns : List Node} {s : CharSet} {before after : List Char}

theorem matchesAt_start_iff :
    MatchesAt (.start :: ns) before after ↔ before = [] ∧ MatchesAt ns before after :=
  ⟨fun | .start h => ⟨rfl, h⟩, fun ⟨hbefore, h⟩ => by subst hbefore; exact .start h⟩

theorem matchesAt_stop_iff :
    MatchesAt (.stop :: ns) before after ↔ after = [] ∧ MatchesAt ns before after :=
  ⟨fun | .stop h => ⟨rfl, h⟩, fun ⟨hafter, h⟩ => by subst hafter; exact .stop h⟩

theorem matchesAt_one_iff :
    MatchesAt (.one s :: ns) before after ↔
      ∃ c rest, after = c :: rest ∧ s.contains c = true ∧ MatchesAt ns (before ++ [c]) rest := by
  constructor
  · intro
    | .one hc h => exact ⟨_, _, rfl, hc, h⟩
  · rintro ⟨c, rest, rfl, hc, h⟩
    exact .one hc h

theorem matchesAt_many_iff :
    MatchesAt (.many s :: ns) before after ↔
      ∃ piece rest, after = piece ++ rest ∧ (∀ c ∈ piece, s.contains c = true) ∧
        MatchesAt ns (before ++ piece) rest := by
  constructor
  · intro
    | .many hpiece h => exact ⟨_, _, rfl, hpiece, h⟩
  · rintro ⟨piece, rest, rfl, hpiece, h⟩
    exact .many hpiece h

end

/-! ## The matcher -/

/-- The answers tell for each place in a text, whose part before it is `before`, whether the
property holds there. -/
def Answers (P : List Char → List Char → Prop) : List Char → List Char → List Bool → Prop
  | before, [], bs => ∃ b, bs = [b] ∧ (b = true ↔ P before [])
  | before, c :: cs, bs => ∃ b later, bs = b :: later ∧ (b = true ↔ P before (c :: cs)) ∧
    Answers P (before ++ [c]) cs later

namespace Answers

variable {P Q : List Char → List Char → Prop} {before text : List Char} {bs : List Bool}

theorem headD (h : Answers P before text bs) : bs.headD false = true ↔ P before text := by
  cases text with
  | nil => obtain ⟨b, rfl, hb⟩ := h; exact hb
  | cons c cs => obtain ⟨b, later, rfl, hb, -⟩ := h; exact hb

theorem any_iff (h : Answers P before text bs) :
    (bs.any fun here => here) = true ↔
      ∃ front rest, text = front ++ rest ∧ P (before ++ front) rest := by
  induction text generalizing before bs with
  | nil =>
    obtain ⟨b, rfl, hb⟩ := h
    simp [hb, and_assoc]
  | cons c cs ih =>
    obtain ⟨b, later, rfl, hb, hlater⟩ := h
    rw [List.any_cons, Bool.or_eq_true, hb, ih hlater]
    constructor
    · rintro (hP | ⟨front, rest, rfl, hP⟩)
      · exact ⟨[], c :: cs, rfl, by simpa using hP⟩
      · exact ⟨c :: front, rest, rfl, by simpa using hP⟩
    · rintro ⟨front, rest, e, hP⟩
      cases front with
      | nil =>
        obtain rfl : c :: cs = rest := e
        exact .inl (by simpa using hP)
      | cons d front =>
        cases e
        exact .inr ⟨front, rest, rfl, by simpa using hP⟩

theorem congr (h : Answers P before text bs) (hPQ : ∀ b t, P b t ↔ Q b t) :
    Answers Q before text bs := by
  rw [← funext fun b => funext fun t => propext (hPQ b t)]
  exact h

theorem all (before text : List Char) :
    Answers (fun _ _ => True) before text (text.map (fun _ => true) ++ [true]) := by
  induction text generalizing before with
  | nil => exact ⟨true, rfl, by simp⟩
  | cons c cs ih => exact ⟨true, _, rfl, by simp, ih _⟩

/-- Nowhere after the beginning of the whole text. -/
theorem none_of_ne_nil (h : Answers P before text bs) (hbefore : before ≠ []) :
    Answers (fun b t => b = [] ∧ P b t) before text (bs.map fun _ => false) := by
  induction text generalizing before bs with
  | nil =>
    obtain ⟨b, rfl, -⟩ := h
    exact ⟨false, rfl, by simp [hbefore]⟩
  | cons c cs ih =>
    obtain ⟨b, later, rfl, -, hlater⟩ := h
    exact ⟨false, _, rfl, by simp [hbefore], ih hlater (by simp)⟩

theorem start (h : Answers P [] text bs) :
    Answers (fun b t => b = [] ∧ P b t) [] text (stepStart bs) := by
  cases text with
  | nil =>
    obtain ⟨b, rfl, hb⟩ := h
    exact ⟨b, rfl, by simp [hb]⟩
  | cons c cs =>
    obtain ⟨b, later, rfl, hb, hlater⟩ := h
    exact ⟨b, _, rfl, by simp [hb], hlater.none_of_ne_nil (by simp)⟩

theorem stop (h : Answers P before text bs) :
    Answers (fun b t => t = [] ∧ P b t) before text (stepStop text bs) := by
  induction text generalizing before bs with
  | nil =>
    obtain ⟨b, rfl, hb⟩ := h
    exact ⟨b, rfl, by simp [hb]⟩
  | cons c cs ih =>
    obtain ⟨b, later, rfl, -, hlater⟩ := h
    exact ⟨false, _, rfl, by simp, ih hlater⟩

theorem one (takes : Char → Bool) (h : Answers P before text bs) :
    Answers (fun b t => ∃ c rest, t = c :: rest ∧ takes c = true ∧ P (b ++ [c]) rest) before text
      (stepOne takes text bs) := by
  induction text generalizing before bs with
  | nil =>
    obtain ⟨b, rfl, -⟩ := h
    exact ⟨false, rfl, by simp⟩
  | cons c cs ih =>
    obtain ⟨b, later, rfl, -, hlater⟩ := h
    refine ⟨_, _, rfl, ?_, ih hlater⟩
    rw [Bool.and_eq_true, hlater.headD]
    constructor
    · rintro ⟨hc, hP⟩
      exact ⟨c, cs, rfl, hc, hP⟩
    · rintro ⟨c', rest, e, hc, hP⟩
      cases e
      exact ⟨hc, hP⟩

theorem run (takes : Char → Bool) (h : Answers P before text bs) :
    Answers (fun b t => ∃ piece rest, t = piece ++ rest ∧ (∀ c ∈ piece, takes c = true) ∧
      P (b ++ piece) rest) before text (stepRun takes text bs) := by
  induction text generalizing before bs with
  | nil =>
    obtain ⟨b, rfl, hb⟩ := h
    refine ⟨b, rfl, hb.trans ⟨fun hP => ⟨[], [], rfl, by simp, by simpa using hP⟩, ?_⟩⟩
    rintro ⟨piece, rest, e, -, hP⟩
    obtain ⟨rfl, rfl⟩ := List.append_eq_nil_iff.mp e.symm
    simpa using hP
  | cons c cs ih =>
    obtain ⟨b, later, rfl, hb, hlater⟩ := h
    refine ⟨_, _, rfl, ?_, ih hlater⟩
    rw [Bool.or_eq_true, hb, Bool.and_eq_true, (ih hlater).headD]
    constructor
    · rintro (hP | ⟨hc, piece, rest, rfl, hpiece, hP⟩)
      · exact ⟨[], c :: cs, rfl, by simp, by simpa using hP⟩
      · exact ⟨c :: piece, rest, rfl, List.forall_mem_cons.mpr ⟨hc, hpiece⟩, by simpa using hP⟩
    · rintro ⟨piece, rest, e, hpiece, hP⟩
      cases piece with
      | nil =>
        obtain rfl : c :: cs = rest := e
        exact .inl (by simpa using hP)
      | cons d piece =>
        cases e
        obtain ⟨hd, hpiece⟩ := List.forall_mem_cons.mp hpiece
        exact .inr ⟨hd, piece, rest, rfl, hpiece, by simpa using hP⟩

end Answers

theorem answers_tailMatches (ns : List Node) (text : List Char) :
    Answers (MatchesAt ns) [] text (tailMatches ns text) := by
  induction ns with
  | nil => exact (Answers.all [] text).congr fun _ _ => ⟨fun _ => .nil, fun _ => trivial⟩
  | cons n ns ih =>
    rw [tailMatches]
    cases n with
    | start => exact ih.start.congr fun _ _ => matchesAt_start_iff.symm
    | stop => exact ih.stop.congr fun _ _ => matchesAt_stop_iff.symm
    | one s => exact (ih.one s.contains).congr fun _ _ => matchesAt_one_iff.symm
    | many s => exact (ih.run s.contains).congr fun _ _ => matchesAt_many_iff.symm

/-- An expression matches a text exactly if its nodes match at some place of it. -/
theorem isMatch_iff {r : Regex} {text : String} :
    r.isMatch text = true ↔
      ∃ before after, text.toList = before ++ after ∧ MatchesAt r.nodes before after :=
  (answers_tailMatches r.nodes text.toList).any_iff

end Regex
end InputUdev

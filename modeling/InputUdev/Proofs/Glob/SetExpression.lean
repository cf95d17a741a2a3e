import InputUdev.Regex.Matching

/-!
# Set expressions

What the text of a bracket's members denotes, as an expression that is read from left to right: a
union of characters and ranges, from which each pair of hyphens takes the union that follows it
(`SetExpr`, `Denotes`). Every text denotes exactly one expression (`exists_denotes`,
`Denotes.unique`).
-/

namespace InputUdev.Glob

open Regex (Range)

/-- One of the ranges holds the character. -/
def Covers (rs : List Range) (c : Char) : Prop := ∃ r ∈ rs, r.first ≤ c ∧ c ≤ r.last

theorem any_contains_iff {rs : List Range} {c : Char} :
    rs.any (·.contains c) = true ↔ Covers rs c := by
  simp only [List.any_eq_true, Range.contains, decide_eq_true_eq, Covers]

/-- A union of ranges, less some further unions of ranges. -/
inductive SetExpr where
  | union (rs : List Range)
  | diff (left : SetExpr) (rs : List Range)
  deriving DecidableEq, Repr

namespace SetExpr

/-- Adds a range to the last of the unions. -/
def add (r : Range) : SetExpr → SetExpr
  | union rs => union (rs ++ [r])
  | diff left rs => diff left (rs ++ [r])

def Mem (c : Char) : SetExpr → Prop
  | union rs => Covers rs c
  | diff left rs => left.Mem c ∧ ¬ Covers rs c

/-- All ranges of the expression, whether they are taken in or out. -/
def ranges : SetExpr → List Range
  | union rs => rs
  | diff left rs => left.ranges ++ rs

/-- No range of the expression has its ends in reversed order. -/
def Ordered (e : SetExpr) : Prop := ∀ r ∈ e.ranges, r.first ≤ r.last

instance (e : SetExpr) : Decidable e.Ordered :=
  inferInstanceAs (Decidable (∀ r ∈ e.ranges, r.first ≤ r.last))

theorem ranges_add (r : Range) (e : SetExpr) : (e.add r).ranges = e.ranges ++ [r] := by
  cases e <;> simp [add, ranges]

theorem ordered_add_iff {r : Range} {e : SetExpr} :
    (e.add r).Ordered ↔ e.Ordered ∧ r.first ≤ r.last := by
  simp [Ordered, ranges_add, or_imp, forall_and]

theorem ordered_add_single_iff {c : Char} {e : SetExpr} :
    (e.add (.single c)).Ordered ↔ e.Ordered := by
  rw [ordered_add_iff]
  exact and_iff_left (Char.le_refl c)

theorem ordered_diff_nil_iff {e : SetExpr} : (e.diff []).Ordered ↔ e.Ordered := by
  simp [Ordered, ranges]

end SetExpr

/-- Reading a text after the expression `e` leads to another expression. Two hyphens in a row are
the set difference; a hyphen between two characters of which none is a hyphen makes a range; any
other character stands for itself. -/
inductive Scans : SetExpr → List Char → SetExpr → Prop
  | done : Scans e [] e
  | minus : Scans (e.diff []) rest e' → Scans e ('-' :: '-' :: rest) e'
  | range : c ≠ '-' → d ≠ '-' → Scans (e.add ⟨c, d⟩) rest e' → Scans e (c :: '-' :: d :: rest) e'
  | single : rest.head? ≠ some '-' → Scans (e.add (.single c)) rest e' → Scans e (c :: rest) e'
  | beforeMinus : c ≠ '-' → Scans (e.add (.single c)) ('-' :: '-' :: rest) e' →
    Scans e (c :: '-' :: '-' :: rest) e'
  | beforeLast : c ≠ '-' → Scans (e.add (.single c)) ['-'] e' → Scans e [c, '-'] e'

/-- What the text of a bracket's members denotes: hyphens at its beginning stand for themselves. -/
def Denotes (members : List Char) (e : SetExpr) : Prop :=
  ∃ n rest, members = List.replicate n '-' ++ rest ∧ rest.head? ≠ some '-' ∧
    Scans (.union (List.replicate n (.single '-'))) rest e

variable {e e' f : SetExpr} {members text : List Char}

/-- No range that is read once is dropped again. -/
theorem Scans.ordered_left (h : Scans e text e') (he' : e'.Ordered) : e.Ordered := by
  induction h with
  | done => exact he'
  | minus _ ih => exact SetExpr.ordered_diff_nil_iff.mp (ih he')
  | range _ _ _ ih => exact (SetExpr.ordered_add_iff.mp (ih he')).1
  | single _ _ ih | beforeMinus _ _ ih | beforeLast _ _ ih =>
    exact SetExpr.ordered_add_single_iff.mp (ih he')

theorem Scans.unique (h : Scans e text e') (h' : Scans e text f) : e' = f := by
  induction h with
  | done => cases h'; rfl
  | minus _ ih =>
    cases h' with
    | minus h' => exact ih h'
    | range hc | beforeMinus hc | beforeLast hc => exact absurd rfl hc
    | single hrest => exact absurd rfl hrest
  | range hc hd _ ih =>
    cases h' with
    | minus => exact absurd rfl hc
    | range _ _ h' => exact ih h'
    | single hrest => exact absurd rfl hrest
    | beforeMinus => exact absurd rfl hd
  | single hrest _ ih =>
    cases h' with
    | single _ h' => exact ih h'
    | minus | range | beforeMinus | beforeLast => exact absurd rfl hrest
  | beforeMinus hc _ ih =>
    cases h' with
    | minus => exact absurd rfl hc
    | range _ hd => exact absurd rfl hd
    | single hrest => exact absurd rfl hrest
    | beforeMinus _ h' => exact ih h'
  | beforeLast hc _ ih =>
    cases h' with
    | minus => exact absurd rfl hc
    | single hrest => exact absurd rfl hrest
    | beforeLast _ h' => exact ih h'

theorem exists_scans (e : SetExpr) (text : List Char) : ∃ e', Scans e text e' := by
  match text with
  | [] => exact ⟨e, .done⟩
  | [c] =>
    exact ⟨_, .single (by simp) .done⟩
  | c :: d :: rest =>
    by_cases hd : d = '-'
    · subst hd
      by_cases hc : c = '-'
      · subst hc
        obtain ⟨e', h⟩ := exists_scans (e.diff []) rest
        exact ⟨e', .minus h⟩
      · match rest with
        | [] => exact ⟨_, .beforeLast hc (.single (by simp) .done)⟩
        | d :: rest =>
          by_cases hd : d = '-'
          · subst hd
            obtain ⟨e', h⟩ := exists_scans (e.add (.single c)) ('-' :: '-' :: rest)
            exact ⟨e', .beforeMinus hc h⟩
          · obtain ⟨e', h⟩ := exists_scans (e.add ⟨c, d⟩) rest
            exact ⟨e', .range hc hd h⟩
    · obtain ⟨e', h⟩ := exists_scans (e.add (.single c)) (d :: rest)
      exact ⟨e', .single (by simpa using hd) h⟩
termination_by text.length

theorem exists_eq_replicate_append (members : List Char) :
    ∃ n rest, members = List.replicate n '-' ++ rest ∧ rest.head? ≠ some '-' := by
  induction members with
  | nil => exact ⟨0, [], rfl, by simp⟩
  | cons c members ih =>
    by_cases hc : c = '-'
    · obtain ⟨n, rest, rfl, hrest⟩ := ih
      exact ⟨n + 1, rest, by rw [hc, List.replicate_succ, List.cons_append], hrest⟩
    · exact ⟨0, c :: members, rfl, by simpa using hc⟩

theorem exists_denotes (members : List Char) : ∃ e, Denotes members e := by
  obtain ⟨n, rest, hmembers, hrest⟩ := exists_eq_replicate_append members
  obtain ⟨e, he⟩ := exists_scans (.union (List.replicate n (.single '-'))) rest
  exact ⟨e, n, rest, hmembers, hrest, he⟩

theorem replicate_append_inj {m n : Nat} {rest rest' : List Char}
    (h : List.replicate m '-' ++ rest = List.replicate n '-' ++ rest')
    (hrest : rest.head? ≠ some '-') (hrest' : rest'.head? ≠ some '-') : m = n ∧ rest = rest' := by
  induction m generalizing n with
  | zero =>
    cases n with
    | zero => exact ⟨rfl, h⟩
    | succ n => exact absurd (by rw [show rest = _ from h]; rfl) hrest
  | succ m ih =>
    cases n with
    | zero => exact absurd (by rw [show rest' = _ from h.symm]; rfl) hrest'
    | succ n =>
      obtain ⟨rfl, rfl⟩ := ih (List.cons.inj h).2
      exact ⟨rfl, rfl⟩

theorem Denotes.unique (h : Denotes members e) (h' : Denotes members e') : e = e' := by
  obtain ⟨m, rest, rfl, hrest, hscan⟩ := h
  obtain ⟨n, rest', heq, hrest', hscan'⟩ := h'
  obtain ⟨rfl, rfl⟩ := replicate_append_inj heq hrest hrest'
  exact hscan.unique hscan'

end InputUdev.Glob

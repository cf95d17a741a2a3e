import InputUdev.Glob.Translation

/-!
# The parts of a pattern

How a pattern is cut from left to right into its parts, as rules and without reference to the
translation of patterns (`Glob.Cut`). Every pattern has exactly one cut (`exists_cut`,
`Cut.unique`), and its translation is that of its parts, one after the other
(`Cut.translateFrom_eq`).
-/

namespace InputUdev.Glob

/-- A part of a pattern, with the text it was written as. -/
inductive Part where
  | run
  | any
  /-- A closed bracket: whether it is negated, and the text of its members. -/
  | bracket (negated : Bool) (members : List Char)
  /-- A character that stands for itself, or a bracket that is never closed and all after it. -/
  | text (cs : List Char)
  deriving DecidableEq, Repr

/-- The text after an opening bracket begins with members and a closing bracket. The first member
may be a closing bracket, and only a first `!` negates. -/
inductive Closes : List Char → Bool → List Char → List Char → Prop
  | plain : m ≠ '!' → ']' ∉ ms → Closes (m :: (ms ++ ']' :: after)) false (m :: ms) after
  | negated : ']' ∉ ms → Closes ('!' :: m :: (ms ++ ']' :: after)) true (m :: ms) after

inductive Cut : List Char → List Part → Prop
  | nil : Cut [] []
  | run : Cut rest ps → Cut ('*' :: rest) (.run :: ps)
  | any : Cut rest ps → Cut ('?' :: rest) (.any :: ps)
  | bracket : Closes text negated members after → Cut after ps →
    Cut ('[' :: text) (.bracket negated members :: ps)
  | opening : (∀ negated members after, ¬ Closes text negated members after) →
    Cut ('[' :: text) [.text ('[' :: text)]
  | char : c ≠ '*' → c ≠ '?' → c ≠ '[' → Cut rest ps → Cut (c :: rest) (.text [c] :: ps)

variable {text members members' after after' : List Char} {negated negated' : Bool}

/-! ## Closed brackets -/

theorem append_closing_inj {ms ms' : List Char} (hms : ']' ∉ ms) (hms' : ']' ∉ ms')
    (h : ms ++ ']' :: after = ms' ++ ']' :: after') : ms = ms' ∧ after = after' := by
  induction ms generalizing ms' with
  | nil =>
    cases ms' with
    | nil => exact ⟨rfl, (List.cons.inj h).2⟩
    | cons c ms' => exact absurd (by rw [(List.cons.inj h).1]; exact List.mem_cons_self) hms'
  | cons c ms ih =>
    cases ms' with
    | nil => exact absurd (by rw [(List.cons.inj h).1]; exact List.mem_cons_self) hms
    | cons c' ms' =>
      obtain ⟨hc, htail⟩ := List.cons.inj h
      obtain ⟨rfl, rfl⟩ := ih (List.not_mem_of_not_mem_cons hms)
        (List.not_mem_of_not_mem_cons hms') htail
      exact ⟨hc ▸ rfl, rfl⟩

theorem Closes.unique (h : Closes text negated members after)
    (h' : Closes text negated' members' after') :
    negated = negated' ∧ members = members' ∧ after = after' := by
  generalize htext : text = text' at h'
  cases h with
  | plain hm hms =>
    cases h' with
    | plain hm' hms' =>
      obtain ⟨hm, htail⟩ := List.cons.inj htext
      obtain ⟨rfl, rfl⟩ := append_closing_inj hms hms' htail
      exact ⟨rfl, hm ▸ rfl, rfl⟩
    | negated => exact absurd (List.cons.inj htext).1 hm
  | negated hms =>
    cases h' with
    | plain hm' => exact absurd (List.cons.inj htext).1.symm hm'
    | negated hms' =>
      obtain ⟨hm, htail⟩ := List.cons.inj (List.cons.inj htext).2
      obtain ⟨rfl, rfl⟩ := append_closing_inj hms hms' htail
      exact ⟨rfl, hm ▸ rfl, rfl⟩

theorem Closes.after_subset (h : Closes text negated members after) : after ⊆ text := by
  intro c hc
  cases h with
  | plain _ _ | negated _ => simp [hc]

theorem Closes.length_lt (h : Closes text negated members after) : after.length < text.length := by
  cases h <;> simp <;> omega

theorem not_mem_of_not_closes {m : Char} {rest : List Char} (hm : m ≠ '!')
    (hopen : ∀ negated members after, ¬ Closes (m :: rest) negated members after) :
    ']' ∉ rest := by
  intro hmem
  obtain ⟨ms, after, rfl, hms⟩ := List.eq_append_cons_of_mem hmem
  exact hopen _ _ _ (.plain hm hms)

theorem not_mem_of_not_closes_negated {m : Char} {rest : List Char}
    (hopen : ∀ negated members after, ¬ Closes ('!' :: m :: rest) negated members after) :
    ']' ∉ rest := by
  intro hmem
  obtain ⟨ms, after, rfl, hms⟩ := List.eq_append_cons_of_mem hmem
  exact hopen _ _ _ (.negated hms)

/-! ## The cut of a pattern -/

theorem exists_cut (text : List Char) : ∃ ps, Cut text ps := by
  match text with
  | [] => exact ⟨_, .nil⟩
  | c :: rest =>
    by_cases hstar : c = '*'
    · subst hstar
      obtain ⟨ps, h⟩ := exists_cut rest
      exact ⟨_, .run h⟩
    by_cases hquestion : c = '?'
    · subst hquestion
      obtain ⟨ps, h⟩ := exists_cut rest
      exact ⟨_, .any h⟩
    by_cases hbracket : c = '['
    · subst hbracket
      by_cases hclosed : ∃ negated members after, Closes rest negated members after
      · obtain ⟨negated, members, after, hc⟩ := hclosed
        have := hc.length_lt
        obtain ⟨ps, h⟩ := exists_cut after
        exact ⟨_, .bracket hc h⟩
      · exact ⟨_, .opening fun negated members after hc => hclosed ⟨_, _, _, hc⟩⟩
    · obtain ⟨ps, h⟩ := exists_cut rest
      exact ⟨_, .char hstar hquestion hbracket h⟩
termination_by text.length
decreasing_by all_goals simp; try omega

theorem Cut.unique {ps qs : List Part} (h : Cut text ps) (h' : Cut text qs) :
    ps = qs := by
  induction h generalizing qs with
  | nil => cases h'; rfl
  | run _ ih =>
    cases h' with
    | run h' => rw [ih h']
    | char h₁ _ _ _ => exact absurd rfl h₁
  | any _ ih =>
    cases h' with
    | any h' => rw [ih h']
    | char _ h₂ _ _ => exact absurd rfl h₂
  | bracket hc _ ih =>
    cases h' with
    | bracket hc' h' =>
      obtain ⟨rfl, rfl, rfl⟩ := hc.unique hc'
      rw [ih h']
    | opening hopen => exact absurd hc (hopen _ _ _)
    | char _ _ h₃ _ => exact absurd rfl h₃
  | opening hopen =>
    cases h' with
    | bracket hc' _ => exact absurd hc' (hopen _ _ _)
    | opening _ => rfl
    | char _ _ h₃ _ => exact absurd rfl h₃
  | char h₁ h₂ h₃ _ ih =>
    cases h' with
    | run _ => exact absurd rfl h₁
    | any _ => exact absurd rfl h₂
    | bracket _ _ | opening _ => exact absurd rfl h₃
    | char _ _ _ h' => rw [ih h']

/-! ## The translation of the parts -/

/-- The first member of a bracket, which may be a closing bracket. -/
def escapeFirst (m : Char) : List Char := if m = ']' then ['\\', ']'] else escapeMember m

/-- The text of the set that the members of a bracket are translated to. -/
def setText : List Char → List Char
  | [] => []
  | m :: ms => escapeFirst m ++ ms.flatMap escapeMember

def Part.translation : Part → List Char
  | .run => ['.', '*']
  | .any => ['.']
  | .bracket negated members => '[' :: (if negated then ['^'] else []) ++ setText members ++ [']']
  | .text cs => Regex.escape cs

variable {out set raw ms rest : List Char} {m : Char}

theorem translateBracket_cons (hm : m ≠ ']') :
    translateBracket out set raw (m :: rest) =
      translateBracket out (set ++ escapeMember m) (raw ++ [m]) rest := by
  rw [translateBracket]
  exact hm

theorem translateBracket_closed (hms : ']' ∉ ms) :
    translateBracket out set raw (ms ++ ']' :: after) =
      translateFrom (out ++ ['['] ++ (set ++ ms.flatMap escapeMember) ++ [']']) after := by
  induction ms generalizing set raw with
  | nil => simp [translateBracket]
  | cons m ms ih =>
    have hm : m ≠ ']' := fun h => hms (h ▸ List.mem_cons_self)
    rw [List.cons_append, translateBracket_cons hm, ih (List.not_mem_of_not_mem_cons hms)]
    simp

theorem translateBracket_open (hrest : ']' ∉ rest) :
    translateBracket out set raw rest = out ++ Regex.escape (raw ++ rest) ++ ['$'] := by
  induction rest generalizing set raw with
  | nil => simp [translateBracket]
  | cons c rest ih =>
    have hc : c ≠ ']' := fun h => hrest (h ▸ List.mem_cons_self)
    rw [translateBracket_cons hc, ih (List.not_mem_of_not_mem_cons hrest)]
    simp

theorem translateFrom_first (hm : m ≠ '!') :
    translateFrom out ('[' :: m :: rest) = translateBracket out (escapeFirst m) ['[', m] rest := by
  by_cases hclosing : m = ']'
  · subst hclosing
    rw [translateFrom]
    rfl
  · rw [translateFrom, translateBracket_cons hclosing, escapeFirst, if_neg hclosing]
    · rfl
    all_goals
      intro
      simp [hm, hclosing]

theorem translateFrom_first_negated :
    translateFrom out ('[' :: '!' :: m :: rest) =
      translateBracket out ('^' :: escapeFirst m) ['[', '!', m] rest := by
  by_cases hclosing : m = ']'
  · subst hclosing
    rw [translateFrom]
    rfl
  · rw [translateFrom, translateBracket_cons hclosing, escapeFirst, if_neg hclosing]
    · rfl
    · intro
      simp [hclosing]

/-- A closed bracket is translated to a set. -/
theorem Closes.translateFrom_eq (h : Closes text negated members after) :
    translateFrom out ('[' :: text) =
      translateFrom (out ++ (Part.bracket negated members).translation) after := by
  cases h with
  | plain hm hms =>
    rw [translateFrom_first hm, translateBracket_closed hms]
    simp [Part.translation, setText]
  | negated hms =>
    rw [translateFrom_first_negated, translateBracket_closed hms]
    simp [Part.translation, setText]

/-- A bracket that is never closed is translated to its text, with all that follows. -/
theorem translateFrom_opening
    (hopen : ∀ negated members after, ¬ Closes text negated members after) :
    translateFrom out ('[' :: text) = out ++ Regex.escape ('[' :: text) ++ ['$'] := by
  match text with
  | [] => simp [translateFrom, translateBracket]
  | d :: rest =>
    by_cases hd : d = '!'
    · subst hd
      cases rest with
      | nil => simp [translateFrom, translateBracket]
      | cons m rest =>
        rw [translateFrom_first_negated,
          translateBracket_open (not_mem_of_not_closes_negated hopen)]
        rfl
    · rw [translateFrom_first hd, translateBracket_open (not_mem_of_not_closes hd hopen)]
      rfl

/-- The translation of a pattern is that of its parts, one after the other. -/
theorem Cut.translateFrom_eq {ps : List Part} (h : Cut text ps) (out : List Char) :
    translateFrom out text = out ++ ps.flatMap Part.translation ++ ['$'] := by
  induction h generalizing out with
  | nil => simp [translateFrom]
  | run _ ih | any _ ih =>
    rw [translateFrom, ih]
    simp [Part.translation]
  | bracket hc _ ih =>
    rw [hc.translateFrom_eq, ih]
    simp
  | opening hopen =>
    rw [translateFrom_opening hopen]
    simp [Part.translation]
  | char hstar hquestion hbracket _ ih =>
    rw [translateFrom, ih]
    · simp [Part.translation]
    all_goals simp [hstar, hquestion, hbracket]

example : translate "/dev/ums[0-9]*" = "^/dev/ums[0-9].*$" := by decide

example : translate "v.1[!" = "^v\\.1\\[!$" := by decide

end InputUdev.Glob

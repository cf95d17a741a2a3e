import InputUdev.Text.Numeral

/-!
# Quoted text in TOML

A text stands between double quotes, with escapes, or between single quotes, without. The quotes are
written once around a text of one line and three times around a text of several lines.
-/

namespace InputUdev.Toml

/-- The white space within a line. -/
def isSpace (c : Char) : Bool := c == ' ' || c == '\t'

/-- A character that may stand for itself in a text or a comment. -/
def isPlain (c : Char) : Bool := c == '\t' || (0x20 ≤ c.toNat && c.toNat != 0x7f)

/-- How a text is quoted. -/
structure Quoting where
  /-- Between double quotes, with escapes. -/
  escapes : Bool
  /-- Between three quotes on either side. -/
  long : Bool

/-- The character that a backslash and the given character stand for. -/
def escaped? : Char → Option Char
  | 'b' => some '\x08'
  | 't' => some '\t'
  | 'n' => some '\n'
  | 'f' => some '\x0c'
  | 'r' => some '\r'
  | '\x22' => some '\x22'
  | '\\' => some '\\'
  | _ => none

/-- The character whose number is written in hexadecimal digits. -/
def numbered? (ds : List Char) : Option Char :=
  let n := Text.ofDigits 16 ds
  if ds.all (Text.isDigitOf 16) && n.isValidChar then some (Char.ofNat n) else none

namespace Quoting

def mark (q : Quoting) : Char := if q.escapes then '\x22' else '\x27'

/-- If the closing quotes begin here, the quotes before them that belong to the text, and what
follows them. Up to two quotes before the three closing ones belong to a long text. -/
def closing? (q : Quoting) (cs : List Char) : Option (List Char × List Char) :=
  let n := (cs.takeWhile (· == q.mark)).length
  if q.long then
    let extra := min (n - 3) 2
    if 3 ≤ n then some (List.replicate extra q.mark, cs.drop (extra + 3)) else none
  else if 1 ≤ n then some ([], cs.drop 1) else none

/-- The text up to the closing quotes, as it is written, and what follows them. -/
def cut (q : Quoting) : (afterBackslash : Bool) → List Char → Option (List Char × List Char)
  | _, [] => none
  | true, c :: rest => (q.cut false rest).map fun (raw, after) => (c :: raw, after)
  | false, c :: rest =>
    match q.closing? (c :: rest) with
    | some result => some result
    | none => (q.cut (q.escapes && c == '\\') rest).map fun (raw, after) => (c :: raw, after)

/-- The text that is meant by the characters between the quotes. A backslash at the end of a line of
a long text takes the white space and line ends after it away; `joining` holds while it does. -/
def decode (q : Quoting) : (joining : Bool) → List Char → Option (List Char)
  | _, [] => some []
  | joining, c :: rest =>
    if joining && (isSpace c || c == '\n') then q.decode true rest
    else if c == '\\' && q.long && q.escapes && (rest.dropWhile isSpace).head? == some '\n' then
      q.decode true rest
    else if c == '\\' && q.escapes then
      match rest with
      | 'u' :: d₁ :: d₂ :: d₃ :: d₄ :: rest => do
        return (← numbered? [d₁, d₂, d₃, d₄]) :: (← q.decode false rest)
      | 'U' :: d₁ :: d₂ :: d₃ :: d₄ :: d₅ :: d₆ :: d₇ :: d₈ :: rest => do
        return (← numbered? [d₁, d₂, d₃, d₄, d₅, d₆, d₇, d₈]) :: (← q.decode false rest)
      | e :: rest => do return (← escaped? e) :: (← q.decode false rest)
      | [] => none
    else if isPlain c || (q.long && c == '\n') then (q.decode false rest).map (c :: ·)
    else none

/-- A line end right after the opening quotes of a long text does not count. -/
def dropFirstLineEnd : List Char → List Char
  | '\n' :: rest => rest
  | cs => cs

/-- The quoted text at the beginning, of which the opening quotes are left out, and what follows. -/
def read? (q : Quoting) (cs : List Char) : Option (String × List Char) := do
  let (raw, after) ← q.cut false (if q.long then dropFirstLineEnd cs else cs)
  return (String.ofList (← q.decode false raw), after)

theorem length_closing {q : Quoting} {cs raw after : List Char}
    (h : q.closing? cs = some (raw, after)) : after.length ≤ cs.length := by
  simp only [closing?] at h
  split at h
  · split at h
    · cases h; simp
    · cases h
  · split at h
    · cases h; simp
    · cases h

theorem length_cut {q : Quoting} {b : Bool} {cs raw after : List Char}
    (h : q.cut b cs = some (raw, after)) : after.length ≤ cs.length := by
  induction cs generalizing b raw with
  | nil => simp [cut] at h
  | cons c rest ih =>
    cases b with
    | true =>
      simp only [cut, Option.map_eq_some_iff] at h
      obtain ⟨⟨raw', after'⟩, h, e⟩ := h
      cases e
      exact Nat.le_succ_of_le (ih h)
    | false =>
      rw [cut] at h
      split at h
      · next r hr => cases h; exact length_closing hr
      · simp only [Option.map_eq_some_iff] at h
        obtain ⟨⟨raw', after'⟩, h, e⟩ := h
        cases e
        exact Nat.le_succ_of_le (ih h)

theorem length_dropFirstLineEnd (cs : List Char) : (dropFirstLineEnd cs).length ≤ cs.length := by
  unfold dropFirstLineEnd; split <;> simp

theorem length_read {q : Quoting} {cs after : List Char} {s : String}
    (h : q.read? cs = some (s, after)) : after.length ≤ cs.length := by
  simp only [read?, Option.bind_eq_bind, Option.bind_eq_some_iff, Option.pure_def] at h
  obtain ⟨⟨raw, after'⟩, hcut, text, -, e⟩ := h
  cases e
  refine Nat.le_trans (length_cut hcut) ?_
  split
  · exact length_dropFirstLineEnd cs
  · exact Nat.le_refl _

end Quoting
end InputUdev.Toml

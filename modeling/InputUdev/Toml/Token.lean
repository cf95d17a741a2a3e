import InputUdev.Toml.Quoting

/-!
# Tokens of TOML

A document is cut into words, quoted texts, gaps and marks. A comment is a gap. The cut does not
depend on where in the document a token stands: only the grammar above tells a number from a key.
-/

namespace InputUdev.Toml

inductive Bracket where
  | square
  | curly
  deriving DecidableEq, Repr

inductive Token where
  /-- Bare keys, numbers, dates and the like, with the points between them. -/
  | word (cs : List Char)
  | quoted (long : Bool) (s : String)
  /-- White space within a line, or a comment. -/
  | gap (cs : List Char)
  | lineEnd
  | equals
  | comma
  | opening (b : Bracket)
  | closing (b : Bracket)
  deriving DecidableEq, Repr

/-- A character of bare keys. -/
def isKeyChar (c : Char) : Bool := c.isAlphanum || c == '_' || c == '-'

/-- A character of words. -/
def isWordChar (c : Char) : Bool := isKeyChar c || c == '+' || c == '.' || c == ':'

namespace Token

def mark? : Char → Option Token
  | '\n' => some .lineEnd
  | '=' => some .equals
  | ',' => some .comma
  | '[' => some (.opening .square)
  | ']' => some (.closing .square)
  | '\x7b' => some (.opening .curly)
  | '\x7d' => some (.closing .curly)
  | _ => none

/-- The quoting that the first of some opening quotes begins, and what follows these quotes. -/
def quoting (quote : Char) (rest : List Char) : Quoting × List Char :=
  let escapes := quote == '\x22'
  if rest.take 2 == [quote, quote] then (⟨escapes, true⟩, rest.drop 2) else (⟨escapes, false⟩, rest)

/-- The token at the beginning, and what follows it. -/
def read? (c : Char) (rest : List Char) : Option (Token × List Char) :=
  if c == '\x22' || c == '\x27' then
    let (q, rest) := quoting c rest
    (q.read? rest).map fun (s, after) => (.quoted q.long s, after)
  else if isSpace c then
    some (.gap (c :: rest.takeWhile isSpace), rest.dropWhile isSpace)
  else if c == '#' then
    some (.gap (c :: rest.takeWhile isPlain), rest.dropWhile isPlain)
  else if isWordChar c then
    some (.word (c :: rest.takeWhile isWordChar), rest.dropWhile isWordChar)
  else (mark? c).map fun t => (t, rest)

theorem length_dropWhile_le (p : Char → Bool) (cs : List Char) :
    (cs.dropWhile p).length ≤ cs.length :=
  (List.dropWhile_sublist p).length_le

theorem length_quoting (quote : Char) (rest : List Char) :
    (quoting quote rest).2.length ≤ rest.length := by
  simp only [quoting]; split <;> simp

theorem length_read {c : Char} {rest after : List Char} {t : Token}
    (h : read? c rest = some (t, after)) : after.length ≤ rest.length := by
  unfold read? at h
  split at h
  · simp only [Option.map_eq_some_iff] at h
    obtain ⟨⟨s, after'⟩, h, e⟩ := h
    cases e
    exact Nat.le_trans (Quoting.length_read h) (length_quoting c rest)
  split at h
  · cases h; exact length_dropWhile_le _ _
  split at h
  · cases h; exact length_dropWhile_le _ _
  split at h
  · cases h; exact length_dropWhile_le _ _
  · simp only [Option.map_eq_some_iff] at h
    obtain ⟨t, -, e⟩ := h
    cases e
    exact Nat.le_refl _

/-- The tokens of a document, unless some part of it is no token. -/
def readAll? : List Char → Option (List Token)
  | [] => some []
  | c :: rest =>
    match _h : read? c rest with
    | none => none
    | some (t, after) => (readAll? after).map (t :: ·)
termination_by cs => cs.length
decreasing_by exact Nat.lt_succ_of_le (length_read _h)

end Token
end InputUdev.Toml

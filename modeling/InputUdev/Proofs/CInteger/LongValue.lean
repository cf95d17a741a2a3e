import InputUdev.Proofs.CInteger.Spelling
import Mathlib.Algebra.Group.Int.Defs

/-!
# Texts as longs

`CInteger.ReadsAsLong` says which 64-bit long C reads from a text: after white space and a sign, the
number of the digits at the beginning, in the base that the text selects, or the end of the range
that the number lies beyond. Every text is read as one long. Main statement: a text whose blanks are
ASCII is read as this long, reduced to 32 bits, unless it is the least long there is
(`CInteger.ofText_eq_long_iff`). The accumulated digits stop at the greatest long before the sign
counts, so that the least long is never reached.
-/

namespace InputUdev.CInteger

open Text

def minLong : Int := -0x8000000000000000

/-- White space in C. -/
def isSpace (c : Char) : Bool := (9 ≤ c.toNat && c.toNat ≤ 13) || c.toNat == 0x20

/-- The text is white space, an optional sign and the body. -/
inductive SignedText : List Char → (negative : Bool) → (body : List Char) → Prop
  | space : isSpace c = true → SignedText text negative body → SignedText (c :: text) negative body
  | minus : SignedText ('-' :: body) true body
  | plus : SignedText ('+' :: body) false body
  | unsigned : (∀ c ∈ body.head?, isSpace c = false ∧ c ≠ '-' ∧ c ≠ '+') →
    SignedText body false body

/-- The text begins with the mark of a hexadecimal number, less its zero, and a digit of it. -/
inductive MarksHex : List Char → Prop
  | intro : x = 'x' ∨ x = 'X' → isDigitOf 16 c = true → MarksHex (x :: c :: rest)

/-- The body selects the base `b`, and the digits begin where `start` does. -/
inductive Selects : (body : List Char) → (b : Nat) → (start : List Char) → Prop
  | hexadecimal : MarksHex (x :: start) → Selects ('0' :: x :: start) 16 start
  | octal : ¬ MarksHex rest → Selects ('0' :: rest) 8 ('0' :: rest)
  | decimal : body.head? ≠ some '0' → Selects body 10 body

/-- The digits are the longest beginning of the text that consists of digits. -/
structure LongestDigits (b : Nat) (text digits : List Char) : Prop where
  beginning : digits <+: text
  isDigit : ∀ c ∈ digits, isDigitOf b c = true
  longest : ∀ cs, cs <+: text → (∀ c ∈ cs, isDigitOf b c = true) → cs <+: digits

/-- The long that is next to the number with the sign and the magnitude. -/
def nearestLong (negative : Bool) (magnitude : Nat) : Int :=
  if negative then max minLong (-magnitude) else ↑(min magnitude maxLong)

/-- The number with the sign, its magnitude cut off at the greatest long. -/
def cutLong (negative : Bool) (magnitude : Nat) : Int :=
  if negative then -↑(min magnitude maxLong) else ↑(min magnitude maxLong)

/-- C reads the text as the long. -/
inductive ReadsAsLong (text : List Char) : Int → Prop
  | intro : SignedText text negative body → Selects body b start → LongestDigits b start digits →
    ReadsAsLong text (nearestLong negative (ofDigits b digits))

/-! ## The parts of a text -/

variable {text body start digits : List Char} {b : Nat} {negative : Bool}

theorem splitSign_of_signedText (h : SignedText text negative body) :
    splitSign (text.dropWhile isSpace) = (negative, body) := by
  induction h with
  | space hc _ ih => rw [List.dropWhile_cons_of_pos hc, ih]
  | minus | plus => rfl
  | @unsigned body hhead =>
    cases body with
    | nil => rfl
    | cons c cs =>
      obtain ⟨hspace, hminus, hplus⟩ := hhead c rfl
      rw [List.dropWhile_cons_of_neg (by simp [hspace]), splitSign_cons_of_ne hminus hplus]

theorem exists_signedText (text : List Char) : ∃ negative body, SignedText text negative body := by
  induction text with
  | nil => exact ⟨_, _, .unsigned (by simp)⟩
  | cons c text ih =>
    by_cases hspace : isSpace c = true
    · obtain ⟨negative, body, h⟩ := ih
      exact ⟨negative, body, .space hspace h⟩
    · by_cases hminus : c = '-'
      · subst hminus
        exact ⟨_, _, .minus⟩
      · by_cases hplus : c = '+'
        · subst hplus
          exact ⟨_, _, .plus⟩
        · refine ⟨_, _, .unsigned fun c' hc' => ?_⟩
          cases hc'
          exact ⟨Bool.eq_false_iff.mpr hspace, hminus, hplus⟩

theorem isBlank_of_isSpace {c : Char} (h : isSpace c = true) : isBlank c = true := by
  rw [isSpace, Bool.or_eq_true] at h
  rcases h with h | h <;> simp [isBlank, h]

/-- Among ASCII characters the blanks are the white space of C. -/
theorem isSpace_of_isBlank {c : Char} (h : isBlank c = true) (hascii : c.toNat < 128) :
    isSpace c = true := by
  simp only [isBlank, isSpace, Bool.or_eq_true, Bool.and_eq_true, beq_iff_eq,
    decide_eq_true_eq] at h ⊢
  omega

theorem dropWhile_isBlank_of_ascii (h : ∀ c ∈ text.takeWhile isBlank, c.toNat < 128) :
    text.dropWhile isBlank = text.dropWhile isSpace := by
  induction text with
  | nil => rfl
  | cons c text ih =>
    by_cases hblank : isBlank c = true
    · rw [List.takeWhile_cons_of_pos hblank, List.forall_mem_cons] at h
      rw [List.dropWhile_cons_of_pos hblank,
        List.dropWhile_cons_of_pos (isSpace_of_isBlank hblank h.1), ih h.2]
    · rw [List.dropWhile_cons_of_neg hblank,
        List.dropWhile_cons_of_neg (hblank ∘ isBlank_of_isSpace)]

theorem exists_selects (body : List Char) : ∃ b start, Selects body b start := by
  by_cases hzero : body.head? = some '0'
  · obtain ⟨rest, rfl⟩ := List.head?_eq_some_iff.mp hzero
    by_cases hmark : MarksHex rest
    · obtain ⟨hx, hc⟩ := hmark
      exact ⟨_, _, .hexadecimal ⟨hx, hc⟩⟩
    · exact ⟨_, _, .octal hmark⟩
  · exact ⟨_, _, .decimal hzero⟩

/-- A mark without a hexadecimal digit is cut off behind its zero, where the octal digits end. -/
theorem base_of_selects (h : Selects body b start) :
    ∃ start', base body = (b, start') ∧
      start'.takeWhile (isDigitOf b) = start.takeWhile (isDigitOf b) := by
  cases h with
  | hexadecimal hmark =>
    obtain ⟨hx, hc⟩ := hmark
    refine ⟨_, ?_, rfl⟩
    rcases hx with rfl | rfl <;> rw [base, if_pos hc]
  | @octal rest hmark =>
    by_cases hx : ∃ x c rest', rest = x :: c :: rest' ∧ (x = 'x' ∨ x = 'X')
    · obtain ⟨x, c, rest', rfl, hx⟩ := hx
      have hc : ¬ isDigitOf 16 c = true := fun hc => hmark ⟨hx, hc⟩
      refine ⟨['0'], ?_, ?_⟩
      · rcases hx with rfl | rfl <;> rw [base, if_neg hc]
      · rcases hx with rfl | rfl <;> rfl
    · refine ⟨_, base.eq_3 rest ?_ ?_, rfl⟩
      · exact fun c rest' heq => hx ⟨_, c, rest', heq, .inl rfl⟩
      · exact fun c rest' heq => hx ⟨_, c, rest', heq, .inr rfl⟩
  | decimal hhead => exact ⟨_, base_of_head_ne hhead, rfl⟩

theorem Selects.base_pos (h : Selects body b start) : 0 < b := by
  cases h <;> decide

theorem longestDigits_iff :
    LongestDigits b start digits ↔ digits = start.takeWhile (isDigitOf b) := by
  have htake : LongestDigits b start (start.takeWhile (isDigitOf b)) := by
    refine ⟨List.takeWhile_prefix _, fun c hc => List.all_eq_true.mp List.all_takeWhile c hc, ?_⟩
    rintro cs ⟨rest, rfl⟩ hcs
    rw [List.takeWhile_append_of_pos hcs]
    exact List.prefix_append ..
  constructor
  · intro h
    exact (htake.longest _ h.beginning h.isDigit).eq_of_length_le
      (h.longest _ htake.beginning htake.isDigit).length_le
  · rintro rfl
    exact htake

/-! ## The long of a text -/

theorem exists_readsAsLong (text : List Char) : ∃ n, ReadsAsLong text n := by
  obtain ⟨negative, body, hsigned⟩ := exists_signedText text
  obtain ⟨b, start, hselects⟩ := exists_selects body
  exact ⟨_, .intro hsigned hselects (longestDigits_iff.mpr rfl)⟩

theorem ReadsAsLong.unique {n n' : Int} (h : ReadsAsLong text n) (h' : ReadsAsLong text n') :
    n = n' := by
  obtain ⟨hsigned, hselects, hdigits⟩ := h
  obtain ⟨hsigned', hselects', hdigits'⟩ := h'
  cases (splitSign_of_signedText hsigned).symm.trans (splitSign_of_signedText hsigned')
  obtain ⟨start₁, hbase, hstart⟩ := base_of_selects hselects
  obtain ⟨start₂, hbase', hstart'⟩ := base_of_selects hselects'
  cases hbase.symm.trans hbase'
  rw [longestDigits_iff.mp hdigits, longestDigits_iff.mp hdigits', ← hstart, ← hstart']

theorem cutLong_of_ne {n : Nat} (h : nearestLong negative n ≠ minLong) :
    cutLong negative n = nearestLong negative n := by
  cases negative with
  | false => rfl
  | true =>
    simp only [nearestLong, cutLong, if_true, minLong, maxLong] at h ⊢
    omega

theorem cutLong_of_eq {n : Nat} (h : nearestLong negative n = minLong) :
    cutLong negative n = -maxLong := by
  cases negative with
  | false =>
    simp only [nearestLong, Bool.false_eq_true, if_false, minLong, maxLong] at h
    omega
  | true =>
    simp only [nearestLong, cutLong, if_true, minLong, maxLong] at h ⊢
    omega

theorem toNat_neg_ofNat (n : Nat) : ((-UInt32.ofNat n).toNat : Int) = -(n : Int) % 2 ^ 32 := by
  rw [UInt32.toNat_neg, UInt32.toNat_ofNat', UInt32.size]
  omega

/-- The exact magnitude is cut off at the greatest long, and only then does the sign count. -/
theorem toNat_ofChars_of_splitSign (hsign : splitSign (text.dropWhile isBlank) = (negative, body))
    (hselects : Selects body b start) (hdigits : LongestDigits b start digits) :
    ((ofChars text).toNat : Int) = cutLong negative (ofDigits b digits) % 2 ^ 32 := by
  obtain ⟨start', hbase, hstart⟩ := base_of_selects hselects
  have hmagnitude : min (magnitude b start') maxLong = min (ofDigits b digits) maxLong := by
    rw [magnitude_eq_min hselects.base_pos, hstart, ← longestDigits_iff.mp hdigits, maxWord,
      maxLong]
    omega
  simp only [ofChars, hsign, hbase, hmagnitude]
  cases negative with
  | true => simp only [cutLong, if_true, toNat_neg_ofNat]
  | false =>
    simp only [cutLong, Bool.false_eq_true, if_false, UInt32.toNat_ofNat']
    omega

theorem toNat_ofChars (hascii : ∀ c ∈ text.takeWhile isBlank, c.toNat < 128)
    (hsigned : SignedText text negative body) (hselects : Selects body b start)
    (hdigits : LongestDigits b start digits) :
    ((ofChars text).toNat : Int) = cutLong negative (ofDigits b digits) % 2 ^ 32 := by
  refine toNat_ofChars_of_splitSign ?_ hselects hdigits
  rw [dropWhile_isBlank_of_ascii hascii, splitSign_of_signedText hsigned]

/-- A text whose blanks are ASCII is read as the long that C reads from it, reduced to 32 bits,
exactly if that is not the least long. For the least long the number is one too large. -/
theorem ofText_eq_long_iff (text : String)
    (hascii : ∀ c ∈ text.toList.takeWhile isBlank, c.toNat < 128) :
    ∃ n, (∀ m, ReadsAsLong text.toList m ↔ m = n) ∧
      (((ofText text).toNat : Int) = n % 2 ^ 32 ↔ n ≠ minLong) ∧
      (n = minLong → ((ofText text).toNat : Int) = n % 2 ^ 32 + 1) := by
  obtain ⟨n, hn⟩ := exists_readsAsLong text.toList
  refine ⟨n, fun m => ⟨fun hm => hm.unique hn, fun h => h ▸ hn⟩, ?_⟩
  obtain ⟨hsigned, hselects, hdigits⟩ := hn
  rw [ofText, toNat_ofChars hascii hsigned hselects hdigits]
  refine ⟨⟨fun heq hmin => ?_, fun hne => by rw [cutLong_of_ne hne]⟩, fun hmin => ?_⟩
  · rw [cutLong_of_eq hmin, hmin] at heq
    exact absurd heq (by decide)
  · rw [cutLong_of_eq hmin, hmin]
    decide

theorem ofText_eq_long_in_hexadecimal :
    (∀ c ∈ "\n-0X7FFFFFFFFFFFFFFF,".toList.takeWhile isBlank, c.toNat < 128) ∧
    ReadsAsLong "\n-0X7FFFFFFFFFFFFFFF,".toList (minLong + 1) ∧
    ((ofText "\n-0X7FFFFFFFFFFFFFFF,").toNat : Int) = (minLong + 1) % 2 ^ 32 := by
  have hblanks : "\n-0X7FFFFFFFFFFFFFFF,".toList.takeWhile isBlank = ['\n'] := by decide +kernel
  have hascii : ∀ c ∈ "\n-0X7FFFFFFFFFFFFFFF,".toList.takeWhile isBlank, c.toNat < 128 := by
    rw [hblanks]
    exact List.forall_mem_singleton.mpr (by decide)
  have hlong : nearestLong true (ofDigits 16 "7FFFFFFFFFFFFFFF".toList) = minLong + 1 := by
    decide +kernel
  have hreads : ReadsAsLong "\n-0X7FFFFFFFFFFFFFFF,".toList (minLong + 1) := by
    rw [← hlong]
    exact .intro (.space (by decide) .minus) (.hexadecimal ⟨.inr rfl, by decide⟩)
      (longestDigits_iff.mpr (by decide +kernel))
  obtain ⟨n, hn, hiff, -⟩ := ofText_eq_long_iff _ hascii
  cases (hn _).mp hreads
  exact ⟨hascii, hreads, hiff.mpr (by decide)⟩

/-- The least long is read as the one above it. -/
theorem ofText_of_least_long :
    (∀ c ∈ "-9223372036854775808".toList.takeWhile isBlank, c.toNat < 128) ∧
    ReadsAsLong "-9223372036854775808".toList minLong ∧
    ofText "-9223372036854775808" = 1 ∧ minLong % 2 ^ 32 = 0 := by
  have hblanks : "-9223372036854775808".toList.takeWhile isBlank = [] := by decide +kernel
  have hlong : nearestLong true (ofDigits 10 "9223372036854775808".toList) = minLong := by
    decide +kernel
  refine ⟨hblanks ▸ List.forall_mem_nil _, ?_, by decide +kernel, by decide⟩
  rw [← hlong]
  exact .intro .minus (.decimal (by decide)) (longestDigits_iff.mpr (by decide +kernel))

end InputUdev.CInteger

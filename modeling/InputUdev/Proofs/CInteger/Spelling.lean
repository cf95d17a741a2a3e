import InputUdev.CInteger
import Mathlib.Data.List.TakeWhile

/-!
# Spellings of a number

`CInteger.Spells` says how C spells a number: in decimal, octal or hexadecimal digits, with or
without a plus sign. Every spelling of a number below `2^32` is read as that number
(`CInteger.ofChars_of_spells`), and a text that begins no number as zero
(`CInteger.ofChars_of_not_beginsNumber`). Behind it is what the accumulation makes of any digits:
their exact number, or the largest word where that is less (`CInteger.magnitude_eq_min`).
-/

namespace InputUdev.CInteger

open Text

/-! ## The accumulation -/

/-- A step keeps the exact number below the largest word, and the largest word from there on. -/
theorem accumulate_min {base : Nat} (hbase : 0 < base) (n digit : Nat) :
    accumulate base (min n maxWord) digit = min (n * base + digit) maxWord := by
  rcases Nat.le_total n maxWord with hn | hn
  · rw [accumulate, Nat.min_eq_left hn]
    omega
  · have hword : maxWord ≤ maxWord * base := Nat.le_mul_of_pos_right _ hbase
    have hexact : maxWord ≤ n * base := Nat.le_trans hn (Nat.le_mul_of_pos_right _ hbase)
    rw [accumulate, Nat.min_eq_right hn]
    omega

theorem foldl_accumulate_min {base : Nat} (hbase : 0 < base) (digits : List Char) (n : Nat) :
    digits.foldl (fun acc c => accumulate base acc ((digitValue? c).getD 0)) (min n maxWord) =
      min (digits.foldl (fun n c => n * base + (digitValue? c).getD 0) n) maxWord := by
  induction digits generalizing n with
  | nil => rfl
  | cons c digits ih => rw [List.foldl_cons, List.foldl_cons, accumulate_min hbase, ih]

theorem magnitude_eq_min {base : Nat} (hbase : 0 < base) (text : List Char) :
    magnitude base text = min (ofDigits base (text.takeWhile (isDigitOf base))) maxWord :=
  foldl_accumulate_min hbase _ 0

/-- Digits alone are read to the end. -/
theorem magnitude_of_digits {base : Nat} (hbase : 0 < base) {digits : List Char}
    (h : ∀ c ∈ digits, isDigitOf base c = true) :
    magnitude base digits = min (ofDigits base digits) maxWord := by
  rw [magnitude_eq_min hbase, List.takeWhile_eq_self_iff.mpr h]

/-! ## Numerals -/

/-- The text is the number in C's notation for numbers without a sign. -/
inductive Numeral (n : Nat) : List Char → Prop
  | decimal : c ≠ '0' → (∀ d ∈ c :: cs, isDigitOf 10 d = true) → ofDigits 10 (c :: cs) = n →
    Numeral n (c :: cs)
  | octal : (∀ d ∈ cs, isDigitOf 8 d = true) → ofDigits 8 cs = n → Numeral n ('0' :: cs)
  | hexadecimal : x = 'x' ∨ x = 'X' → cs ≠ [] → (∀ d ∈ cs, isDigitOf 16 d = true) →
    ofDigits 16 cs = n → Numeral n ('0' :: x :: cs)

/-- The text is the number in C's notation, with or without a plus sign. -/
inductive Spells (n : Nat) : List Char → Prop
  | plain : Numeral n text → Spells n text
  | signed : Numeral n text → Spells n ('+' :: text)

/-- Only a zero marks another base than ten. -/
theorem base_of_head_ne {text : List Char} (h : text.head? ≠ some '0') :
    base text = (10, text) := by
  refine base.eq_4 text ?_ ?_ ?_
  · exact fun _ _ heq => h (heq ▸ rfl)
  · exact fun _ _ heq => h (heq ▸ rfl)
  · exact fun _ heq => h (heq ▸ rfl)

theorem base_octal {cs : List Char} (h : ∀ d ∈ cs, isDigitOf 8 d = true) :
    base ('0' :: cs) = (8, '0' :: cs) := by
  refine base.eq_3 cs ?_ ?_
  all_goals
    rintro c rest rfl
    exact absurd (h _ List.mem_cons_self) (by decide)

namespace Numeral

variable {n : Nat} {text : List Char}

/-- The base of a numeral is told by how it begins, and its digits give the number. -/
theorem exists_base (h : Numeral n text) :
    ∃ b digits, base text = (b, digits) ∧ 0 < b ∧ (∀ d ∈ digits, isDigitOf b d = true) ∧
      ofDigits b digits = n := by
  cases h with
  | @decimal c cs hc hdigits hn =>
    exact ⟨10, c :: cs, base_of_head_ne (by simpa using hc), by decide, hdigits, hn⟩
  | @octal cs hdigits hn =>
    refine ⟨8, '0' :: cs, base_octal hdigits, by decide, ?_, hn⟩
    exact List.forall_mem_cons.mpr ⟨by decide, hdigits⟩
  | @hexadecimal x cs hx hne hdigits hn =>
    refine ⟨16, cs, ?_, by decide, hdigits, hn⟩
    obtain ⟨c, rest, rfl⟩ := List.exists_cons_of_ne_nil hne
    rcases hx with rfl | rfl <;> simp [base, hdigits c List.mem_cons_self]

theorem head_digit (h : Numeral n text) : ∃ c cs, text = c :: cs ∧ isDigitOf 10 c = true := by
  cases h with
  | decimal hc hdigits hn => exact ⟨_, _, rfl, hdigits _ List.mem_cons_self⟩
  | octal hdigits hn => exact ⟨_, _, rfl, by decide⟩
  | hexadecimal hx hne hdigits hn => exact ⟨_, _, rfl, by decide⟩

end Numeral

/-! ## Spellings -/

theorem toNat_of_isDigitOf_ten {c : Char} (h : isDigitOf 10 c = true) :
    48 ≤ c.toNat ∧ c.toNat ≤ 57 := by
  simp only [isDigitOf, digitValue?] at h
  split at h
  · assumption
  · -- the values of letters begin at ten
    split at h
    · simp only [Option.any_some, decide_eq_true_eq] at h
      omega
    · split at h
      · simp only [Option.any_some, decide_eq_true_eq] at h
        omega
      · cases h

theorem splitSign_cons_of_ne {c : Char} (hminus : c ≠ '-') (hplus : c ≠ '+') (cs : List Char) :
    splitSign (c :: cs) = (false, c :: cs) := by
  refine splitSign.eq_3 (c :: cs) ?_ ?_
  all_goals simp [hminus, hplus]

/-- A digit is neither a blank nor a sign. -/
theorem splitSign_dropWhile_isBlank {c : Char} (hc : isDigitOf 10 c = true) (cs : List Char) :
    splitSign ((c :: cs).dropWhile isBlank) = (false, c :: cs) := by
  have hblank : isBlank c = false := by
    have hdigit := toNat_of_isDigitOf_ten hc
    simp only [isBlank, Bool.or_eq_false_iff, Bool.and_eq_false_iff, decide_eq_false_iff_not,
      beq_eq_false_iff_ne]
    omega
  rw [List.dropWhile_cons_of_neg (by simp [hblank])]
  refine splitSign_cons_of_ne ?_ ?_ cs
  all_goals
    rintro rfl
    exact absurd hc (by decide)

variable {n : Nat} {text : List Char}

theorem Spells.exists_numeral (h : Spells n text) :
    ∃ numeral, Numeral n numeral ∧ splitSign (text.dropWhile isBlank) = (false, numeral) := by
  cases h with
  | plain h =>
    obtain ⟨c, cs, rfl, hc⟩ := h.head_digit
    exact ⟨c :: cs, h, splitSign_dropWhile_isBlank hc cs⟩
  | signed h => exact ⟨_, h, rfl⟩

theorem ofChars_of_spells {v : UInt32} (h : Spells v.toNat text) : ofChars text = v := by
  obtain ⟨numeral, hnumeral, hsign⟩ := h.exists_numeral
  obtain ⟨b, digits, hbase, hb, hdigits, hvalue⟩ := hnumeral.exists_base
  have hv : v.toNat < 2 ^ 32 := v.toNat_lt
  have hword : min (magnitude b digits) maxLong = v.toNat := by
    rw [magnitude_of_digits hb hdigits, hvalue, maxWord, maxLong]
    omega
  simp only [ofChars, hsign, hbase, hword, UInt32.ofNat_toNat, Bool.false_eq_true, if_false]

/-! ## Texts without a number -/

/-- After blanks and a sign, the text begins with a digit. -/
inductive BeginsNumber : List Char → Prop
  | blank : isBlank c = true → BeginsNumber rest → BeginsNumber (c :: rest)
  | signed : c = '-' ∨ c = '+' → isDigitOf 10 digit = true → BeginsNumber (c :: digit :: rest)
  | plain : isDigitOf 10 digit = true → BeginsNumber (digit :: rest)

theorem ofChars_cons_of_isBlank {c : Char} (hc : isBlank c = true) :
    ofChars (c :: text) = ofChars text := by
  rw [ofChars, List.dropWhile_cons_of_pos hc]
  rfl

theorem magnitude_base_of_not_digit (h : ∀ c ∈ text.head?, isDigitOf 10 c = false) :
    magnitude (base text).1 (base text).2 = 0 := by
  cases text with
  | nil => rfl
  | cons c cs =>
    have hc : isDigitOf 10 c = false := h c rfl
    have hzero : c ≠ '0' := by
      rintro rfl
      exact absurd hc (by decide)
    rw [base_of_head_ne (by simpa using hzero), magnitude,
      List.takeWhile_cons_of_neg (by simp [hc])]
    rfl

theorem ofChars_of_not_digit {negative : Bool} {body : List Char}
    (hsign : splitSign (text.dropWhile isBlank) = (negative, body))
    (h : ∀ c ∈ body.head?, isDigitOf 10 c = false) : ofChars text = 0 := by
  simp only [ofChars, hsign, magnitude_base_of_not_digit h]
  cases negative <;> rfl

/-- A text that begins no number counts as zero. -/
theorem ofChars_of_not_beginsNumber (h : ¬ BeginsNumber text) : ofChars text = 0 := by
  induction text with
  | nil => rfl
  | cons c text ih =>
    by_cases hblank : isBlank c = true
    · rw [ofChars_cons_of_isBlank hblank]
      exact ih fun hbegins => h (.blank hblank hbegins)
    · have hdrop : (c :: text).dropWhile isBlank = c :: text := List.dropWhile_cons_of_neg hblank
      by_cases hsign : c = '-' ∨ c = '+'
      · have hsplit : ∃ negative,
            splitSign ((c :: text).dropWhile isBlank) = (negative, text) := by
          rw [hdrop]
          rcases hsign with rfl | rfl <;> exact ⟨_, rfl⟩
        obtain ⟨negative, hsplit⟩ := hsplit
        refine ofChars_of_not_digit hsplit fun digit hdigit => ?_
        obtain ⟨rest, rfl⟩ := List.head?_eq_some_iff.mp hdigit
        exact Bool.eq_false_iff.mpr fun hd => h (.signed hsign hd)
      · rw [not_or] at hsign
        have hsplit : splitSign ((c :: text).dropWhile isBlank) = (false, c :: text) := by
          rw [hdrop]
          exact splitSign_cons_of_ne hsign.1 hsign.2 text
        refine ofChars_of_not_digit hsplit fun digit hdigit => ?_
        cases hdigit
        exact Bool.eq_false_iff.mpr fun hd => h (.plain hd)

end InputUdev.CInteger

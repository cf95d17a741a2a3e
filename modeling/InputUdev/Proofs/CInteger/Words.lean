import InputUdev.Proofs.CInteger.Spelling
import Mathlib.Data.UInt

/-!
# Reading with machine words

The reading of a number once more, with the sign told by the first byte of the text, the rest cut
off at a byte, and the digits accumulated in 64-bit words that are narrowed at the end. Where a step
can fail (a cut inside a character or past the end, a base without digits), the reading is none. It
never is, and comes to the same number (`CInteger.ofChars?_eq`).
-/

namespace InputUdev.CInteger

open Text

/-! ## Bytes -/

/-- The text from a byte on, unless that byte is inside a character or past the end. -/
def fromByte? : Nat → List Char → Option (List Char)
  | 0, text => some text
  | _ + 1, [] => none
  | n + 1, c :: text => if c.utf8Size ≤ n + 1 then fromByte? (n + 1 - c.utf8Size) text else none

def firstByte? (text : List Char) : Option UInt8 := (text.flatMap String.utf8EncodeChar).head?

/-- Cuts off a sign, which is one byte. -/
def splitSign? (text : List Char) : Option (Bool × List Char) :=
  if firstByte? text = some 0x2d then (fromByte? 1 text).map (true, ·)
  else if firstByte? text = some 0x2b then (fromByte? 1 text).map (false, ·)
  else some (false, text)

/-! ## Words -/

def maxU64 : UInt64 := 0xffffffffffffffff

/-- The product, or the largest word where that is less. -/
def mulSat (a b : UInt64) : UInt64 := if a.toNat * b.toNat ≤ maxU64.toNat then a * b else maxU64

/-- The sum, or the largest word where that is less. -/
def addSat (a b : UInt64) : UInt64 := if a.toNat + b.toNat ≤ maxU64.toNat then a + b else maxU64

/-- The value of a digit in a base. No digits are for a base below 2 or above 36, and to ask for one
fails. -/
def toDigit? (base : Nat) (c : Char) : Option (Option Nat) :=
  if 2 ≤ base ∧ base ≤ 36 then some ((digitValue? c).filter (· < base)) else none

/-- Accumulates the digits at the beginning of the text. -/
def accumulateAll? (base : Nat) (acc : UInt64) : List Char → Option UInt64
  | [] => some acc
  | c :: text => do
    match ← toDigit? base c with
    | none => some acc
    | some digit =>
      accumulateAll? base (addSat (mulSat acc (.ofNat base)) (.ofNat digit)) text

/-- The accumulated word of a text, and whether a minus sign stands before it. -/
def accumulated? (text : List Char) : Option (Bool × UInt64) := do
  let (negative, body) ← splitSign? (text.dropWhile isBlank)
  let (b, digits) := base body
  let value ← accumulateAll? b 0 digits
  return (negative, value)

/-- The word as a long, negated after a minus sign, and cut to its lower half. -/
def narrow (negative : Bool) (value : UInt64) : UInt32 :=
  let long := (min value 0x7fffffffffffffff).toInt64
  (if negative then -long else long).toUInt64.toUInt32

def ofChars? (text : List Char) : Option UInt32 :=
  (accumulated? text).map fun (negative, value) => narrow negative value

/-! ## The sign -/

variable {text : List Char} {b : Nat}

/-- A byte below 128 is the whole of its character. -/
theorem head?_utf8EncodeChar_eq_iff {c x : Char} (hx : x.toNat < 128) :
    (String.utf8EncodeChar c).head? = some (.ofNat x.toNat) ↔ c = x := by
  have hval : c.val.toNat = c.toNat := rfl
  rw [← Char.toNat_inj, String.utf8EncodeChar, hval]
  repeat' split
  all_goals
    simp only [List.head?_cons, Option.some.injEq, ← UInt8.toNat_inj, UInt8.toNat_ofNat']
    omega

theorem firstByte?_cons_eq_iff {c x : Char} (hx : x.toNat < 128) :
    firstByte? (c :: text) = some (.ofNat x.toNat) ↔ c = x := by
  have hne : (String.utf8EncodeChar c).head? ≠ none := by
    rw [Ne, List.head?_eq_none_iff, ← List.length_eq_zero_iff, String.length_utf8EncodeChar]
    exact c.utf8Size_pos.ne'
  obtain ⟨b, hb⟩ := Option.ne_none_iff_exists'.mp hne
  rw [firstByte?, List.flatMap_cons, List.head?_append, hb, Option.some_or, ← hb,
    head?_utf8EncodeChar_eq_iff hx]

theorem fromByte?_one_cons {c : Char} (hc : c.utf8Size = 1) :
    fromByte? 1 (c :: text) = some text := by
  simp [fromByte?, hc]

theorem splitSign?_eq (text : List Char) : splitSign? text = some (splitSign text) := by
  cases text with
  | nil => rfl
  | cons c rest =>
    have hminus : firstByte? (c :: rest) = some 0x2d ↔ c = '-' :=
      firstByte?_cons_eq_iff (x := '-') (by decide)
    have hplus : firstByte? (c :: rest) = some 0x2b ↔ c = '+' :=
      firstByte?_cons_eq_iff (x := '+') (by decide)
    rw [splitSign?]
    split
    · next h =>
      rw [hminus.mp h, fromByte?_one_cons rfl]
      rfl
    · next hnot =>
      split
      · next h =>
        rw [hplus.mp h, fromByte?_one_cons rfl]
        rfl
      · next hnot' => rw [splitSign_cons_of_ne (mt hminus.mpr hnot) (mt hplus.mpr hnot')]

/-! ## The accumulation -/

theorem toNat_maxU64 : maxU64.toNat = maxWord := rfl

theorem toNat_mulSat (a b : UInt64) : (mulSat a b).toNat = min (a.toNat * b.toNat) maxWord := by
  rw [mulSat, toNat_maxU64]
  split
  · next hle =>
    rw [UInt64.toNat_mul, Nat.mod_eq_of_lt (Nat.lt_of_le_of_lt hle (by decide)),
      Nat.min_eq_left hle]
  · next hlt => rw [toNat_maxU64, Nat.min_eq_right (Nat.le_of_not_le hlt)]

theorem toNat_addSat (a b : UInt64) : (addSat a b).toNat = min (a.toNat + b.toNat) maxWord := by
  rw [addSat, toNat_maxU64]
  split
  · next hle =>
    rw [UInt64.toNat_add, Nat.mod_eq_of_lt (Nat.lt_of_le_of_lt hle (by decide)),
      Nat.min_eq_left hle]
  · next hlt => rw [toNat_maxU64, Nat.min_eq_right (Nat.le_of_not_le hlt)]

/-- A step with words is a step with numbers. -/
theorem toNat_accumulate (acc : UInt64) {digit : Nat} (hb : b ≤ 16) (hdigit : digit < b) :
    (addSat (mulSat acc (.ofNat b)) (.ofNat digit)).toNat = accumulate b acc.toNat digit := by
  rw [toNat_addSat, toNat_mulSat, UInt64.toNat_ofNat_of_lt', UInt64.toNat_ofNat_of_lt', accumulate]
  all_goals
    rw [UInt64.size]
    omega

theorem isDigitOf_iff {c : Char} :
    isDigitOf b c = true ↔ ∃ digit, digitValue? c = some digit ∧ digit < b := by
  rw [isDigitOf]
  cases digitValue? c <;> simp

theorem accumulateAll?_cons_of_digit {c : Char} {digit : Nat} (hb : 2 ≤ b ∧ b ≤ 16)
    (hc : digitValue? c = some digit) (hdigit : digit < b) (acc : UInt64) :
    accumulateAll? b acc (c :: text) =
      accumulateAll? b (addSat (mulSat acc (.ofNat b)) (.ofNat digit)) text := by
  have hdigits : toDigit? b c = some (some digit) := by
    rw [toDigit?, if_pos ⟨hb.1, by omega⟩, hc, Option.filter_some_pos (by simpa using hdigit)]
  rw [accumulateAll?, hdigits]
  rfl

theorem accumulateAll?_cons_of_not_digit {c : Char} (hb : 2 ≤ b ∧ b ≤ 16)
    (hc : ¬ isDigitOf b c = true) (acc : UInt64) :
    accumulateAll? b acc (c :: text) = some acc := by
  have hfilter : (digitValue? c).filter (· < b) = none := by
    simpa [isDigitOf_iff, Option.filter_eq_none_iff] using hc
  have hdigits : toDigit? b c = some none := by
    rw [toDigit?, if_pos ⟨hb.1, by omega⟩, hfilter]
  rw [accumulateAll?, hdigits]
  rfl

theorem accumulateAll?_eq (hb : 2 ≤ b ∧ b ≤ 16) (acc : UInt64) (text : List Char) :
    (accumulateAll? b acc text).map UInt64.toNat =
      some ((text.takeWhile (isDigitOf b)).foldl
        (fun acc c => accumulate b acc ((digitValue? c).getD 0)) acc.toNat) := by
  induction text generalizing acc with
  | nil => rfl
  | cons c text ih =>
    by_cases hc : isDigitOf b c = true
    · obtain ⟨digit, hvalue, hdigit⟩ := isDigitOf_iff.mp hc
      rw [accumulateAll?_cons_of_digit hb hvalue hdigit, ih, List.takeWhile_cons_of_pos hc,
        List.foldl_cons, toNat_accumulate acc hb.2 hdigit, hvalue]
      rfl
    · rw [accumulateAll?_cons_of_not_digit hb hc, List.takeWhile_cons_of_neg hc]
      rfl

theorem base_cases (body : List Char) :
    (base body).1 = 8 ∨ (base body).1 = 10 ∨ (base body).1 = 16 := by
  fun_cases base body <;> simp

/-- The word is found without fail, and holds the magnitude. -/
theorem exists_accumulated?_eq {negative : Bool} {body : List Char}
    (hsign : splitSign (text.dropWhile isBlank) = (negative, body)) :
    ∃ value, accumulated? text = some (negative, value) ∧
      value.toNat = magnitude (base body).1 (base body).2 := by
  have hbase : 2 ≤ (base body).1 ∧ (base body).1 ≤ 16 := by
    have hcases := base_cases body
    omega
  obtain ⟨value, hvalue, hmagnitude⟩ :=
    Option.map_eq_some_iff.mp (accumulateAll?_eq hbase 0 (base body).2)
  refine ⟨value, ?_, hmagnitude⟩
  simp only [accumulated?, splitSign?_eq, hsign, Option.bind_eq_bind, Option.bind_some, hvalue,
    Option.pure_def]

/-! ## The narrowing -/

theorem toUInt32_min_maxLong (value : UInt64) :
    (min value 0x7fffffffffffffff).toUInt32 = UInt32.ofNat (min value.toNat maxLong) := by
  have hmin : min value 0x7fffffffffffffff = UInt64.ofNat (min value.toNat maxLong) := by
    rw [← UInt64.toNat_inj, UInt64.toNat_min, UInt64.toNat_ofNat_of_lt']
    · rfl
    · exact Nat.lt_of_le_of_lt (Nat.min_le_left ..) value.toNat_lt
  rw [hmin, UInt64.toUInt32_ofNat']

theorem narrow_eq (negative : Bool) (value : UInt64) :
    narrow negative value =
      if negative then -UInt32.ofNat (min value.toNat maxLong)
      else UInt32.ofNat (min value.toNat maxLong) := by
  cases negative with
  | true =>
    rw [narrow, if_pos rfl, if_pos rfl, Int64.toUInt64_neg, UInt64.toUInt64_toInt64,
      UInt64.toUInt32_neg, toUInt32_min_maxLong]
  | false =>
    rw [narrow, if_neg Bool.false_ne_true, if_neg Bool.false_ne_true, UInt64.toUInt64_toInt64,
      toUInt32_min_maxLong]

/-- With words, and with every step that can fail, a text is read as the same number. -/
theorem ofChars?_eq (text : List Char) : ofChars? text = some (ofChars text) := by
  obtain ⟨value, haccumulated, hmagnitude⟩ := @exists_accumulated?_eq text _ _ rfl
  rw [ofChars?, haccumulated, Option.map_some]
  simp only [narrow_eq, hmagnitude]
  rfl

end InputUdev.CInteger

import InputUdev.Proofs.CInteger.LongValue
import InputUdev.Proofs.CInteger.Words

/-!
# Long digit strings

The accumulation of a number is exact below the largest word, however long its digits are, and stays
at the largest word from there on. Every text has its sign, its base and its digits in exactly one
way (`CInteger.HasDigits`). Main statement: the accumulated word is the number of the digits or the
largest word, what is read is this number or the greatest long, with the sign and reduced to 32
bits, and no step of the reading fails (`CInteger.ofText_clamped`).
-/

namespace InputUdev.CInteger

open Text

/-- The text is blanks, a sign or none, and the body. -/
inductive Opens : List Char → (negative : Bool) → (body : List Char) → Prop
  | minus : (∀ c ∈ blanks, isBlank c = true) → Opens (blanks ++ '-' :: body) true body
  | plus : (∀ c ∈ blanks, isBlank c = true) → Opens (blanks ++ '+' :: body) false body
  | unsigned : (∀ c ∈ blanks, isBlank c = true) →
    (∀ c ∈ body.head?, isBlank c = false ∧ c ≠ '-' ∧ c ≠ '+') → Opens (blanks ++ body) false body

/-- The number in the text has this sign, this base and these digits. -/
inductive HasDigits (text : List Char) : (negative : Bool) → (b : Nat) → List Char → Prop
  | intro : Opens text negative body → Selects body b start → LongestDigits b start digits →
    HasDigits text negative b digits

variable {text body digits digits' : List Char} {b b' : Nat} {negative negative' : Bool}

theorem splitSign_of_opens (h : Opens text negative body) :
    splitSign (text.dropWhile isBlank) = (negative, body) := by
  cases h with
  | minus hblanks | plus hblanks =>
    rw [List.dropWhile_append_of_pos hblanks]
    rfl
  | unsigned hblanks hhead =>
    rw [List.dropWhile_append_of_pos hblanks]
    cases body with
    | nil => rfl
    | cons c cs =>
      obtain ⟨hblank, hminus, hplus⟩ := hhead c rfl
      rw [List.dropWhile_cons_of_neg (by simp [hblank]), splitSign_cons_of_ne hminus hplus]

theorem exists_opens (text : List Char) : ∃ negative body, Opens text negative body := by
  have hblanks : ∀ c ∈ text.takeWhile isBlank, isBlank c = true := fun c hc =>
    List.all_eq_true.mp List.all_takeWhile c hc
  rw [← List.takeWhile_append_dropWhile (p := isBlank) (l := text)]
  cases hbody : text.dropWhile isBlank with
  | nil => exact ⟨false, [], .unsigned hblanks (by simp)⟩
  | cons c cs =>
    by_cases hminus : c = '-'
    · subst hminus
      exact ⟨true, cs, .minus hblanks⟩
    · by_cases hplus : c = '+'
      · subst hplus
        exact ⟨false, cs, .plus hblanks⟩
      · refine ⟨false, c :: cs, .unsigned hblanks fun c' hc' => ?_⟩
        cases hc'
        have hhead := List.head?_dropWhile_not isBlank text
        rw [hbody] at hhead
        exact ⟨hhead, hminus, hplus⟩

theorem exists_hasDigits (text : List Char) :
    ∃ negative b digits, HasDigits text negative b digits := by
  obtain ⟨negative, body, hopens⟩ := exists_opens text
  obtain ⟨b, start, hselects⟩ := exists_selects body
  exact ⟨_, _, _, .intro hopens hselects (longestDigits_iff.mpr rfl)⟩

theorem HasDigits.unique (h : HasDigits text negative b digits)
    (h' : HasDigits text negative' b' digits') :
    negative' = negative ∧ b' = b ∧ digits' = digits := by
  obtain ⟨hopens, hselects, hdigits⟩ := h
  obtain ⟨hopens', hselects', hdigits'⟩ := h'
  cases (splitSign_of_opens hopens).symm.trans (splitSign_of_opens hopens')
  obtain ⟨start₁, hbase, hstart⟩ := base_of_selects hselects
  obtain ⟨start₂, hbase', hstart'⟩ := base_of_selects hselects'
  cases hbase.symm.trans hbase'
  rw [longestDigits_iff.mp hdigits, longestDigits_iff.mp hdigits', ← hstart, ← hstart']
  exact ⟨rfl, rfl, rfl⟩

theorem HasDigits.base_eq (h : HasDigits text negative b digits) : b = 8 ∨ b = 10 ∨ b = 16 := by
  obtain ⟨-, hselects, -⟩ := h
  cases hselects <;> simp

theorem HasDigits.exists_accumulated (h : HasDigits text negative b digits) :
    ∃ value, accumulated? text = some (negative, value) ∧
      value.toNat = min (ofDigits b digits) (2 ^ 64 - 1) := by
  obtain ⟨hopens, hselects, hdigits⟩ := h
  obtain ⟨value, haccumulated, hvalue⟩ := exists_accumulated?_eq (splitSign_of_opens hopens)
  obtain ⟨start', hbase, hstart⟩ := base_of_selects hselects
  refine ⟨value, haccumulated, ?_⟩
  rw [hvalue, hbase, magnitude_eq_min hselects.base_pos, hstart, ← longestDigits_iff.mp hdigits]
  rfl

theorem HasDigits.toNat_ofChars (h : HasDigits text negative b digits) :
    ((ofChars text).toNat : Int) = cutLong negative (ofDigits b digits) % 2 ^ 32 := by
  obtain ⟨hopens, hselects, hdigits⟩ := h
  exact toNat_ofChars_of_splitSign (splitSign_of_opens hopens) hselects hdigits

/-- A text has its sign, its base and its digits in one way. The accumulated word is the exact
number of the digits or the largest word if that is less, and the number that is read is the exact
one or the greatest long, with the sign and reduced to 32 bits. No cut, digit or word fails. -/
theorem ofText_clamped (text : String) : ∃ negative b digits,
    (∀ negative' b' digits', HasDigits text.toList negative' b' digits' ↔
      negative' = negative ∧ b' = b ∧ digits' = digits) ∧
    (b = 8 ∨ b = 10 ∨ b = 16) ∧
    (∃ value, accumulated? text.toList = some (negative, value) ∧
      value.toNat = min (ofDigits b digits) (2 ^ 64 - 1)) ∧
    ((ofText text).toNat : Int) =
      (if negative then -↑(min (ofDigits b digits) (2 ^ 63 - 1))
        else ↑(min (ofDigits b digits) (2 ^ 63 - 1))) % 2 ^ 32 ∧
    ofChars? text.toList = some (ofText text) := by
  obtain ⟨negative, b, digits, h⟩ := exists_hasDigits text.toList
  refine ⟨negative, b, digits, fun negative' b' digits' => ⟨fun h' => h.unique h', ?_⟩,
    h.base_eq, h.exists_accumulated, h.toNat_ofChars, ofChars?_eq text.toList⟩
  rintro ⟨rfl, rfl, rfl⟩
  exact h

/-- Twenty hexadecimal digits stop at the greatest long. -/
example : ofText "\u3000-0xffffffffffffffffffff!" = 1 := by decide +kernel

end InputUdev.CInteger

import InputUdev.Text.Blank
import InputUdev.Text.Numeral

/-!
# Integers in the notation of C

Decimal, octal and hexadecimal numbers with an optional sign, as kernel tables spell them. Reading
stops at the first character that is no digit. The digits are accumulated in a 64-bit word that
stays at its maximum, clamped to the signed range, and reduced to 32 bits.
-/

namespace InputUdev.CInteger

def maxWord : Nat := 0xffffffffffffffff

def maxLong : Nat := 0x7fffffffffffffff

/-- One step of the accumulation: multiply and add, each stopping at the largest word. -/
def accumulate (base acc digit : Nat) : Nat := min (min (acc * base) maxWord + digit) maxWord

/-- The accumulated value of the digits at the beginning of a text. -/
def magnitude (base : Nat) (text : List Char) : Nat :=
  (text.takeWhile (Text.isDigitOf base)).foldl
    (fun acc c => accumulate base acc ((Text.digitValue? c).getD 0)) 0

/-- The base of an unsigned number and the text of its digits. `0x` marks a hexadecimal number only
before a digit of it; else a leading zero marks an octal one. -/
def base : List Char → Nat × List Char
  | '0' :: 'x' :: c :: rest | '0' :: 'X' :: c :: rest =>
    if Text.isDigitOf 16 c then (16, c :: rest) else (8, ['0'])
  | '0' :: rest => (8, '0' :: rest)
  | text => (10, text)

def ofChars (text : List Char) : UInt32 :=
  let (negative, text) := Text.splitSign (text.dropWhile Text.isBlank)
  let (base, digits) := base text
  let value := UInt32.ofNat (min (magnitude base digits) maxLong)
  if negative then -value else value

def ofText (text : String) : UInt32 := ofChars text.toList

end InputUdev.CInteger

import InputUdev.Text.Numeral
import InputUdev.Toml.Value

/-!
# Scalars of TOML

Booleans, numbers, dates and times, each of which is one unquoted word. The forms exclude one
another.
-/

namespace InputUdev.Toml

/-! ## Numbers -/

/-- Digits in one or more groups with an underscore between them; the digits alone. -/
def digits? (base : Nat) (cs : List Char) : Option (List Char) :=
  let groups := cs.splitOnP (· == '_')
  if groups.all fun g => !g.isEmpty && g.all (Text.isDigitOf base) then some groups.flatten
  else none

/-- Decimal digits without a zero before other digits. -/
def whole? (cs : List Char) : Option (List Char) :=
  (digits? 10 cs).filter fun ds => ds.length == 1 || ds.head? != some '0'

/-- The number of a list of digits with a sign in front of it. -/
def signed (negative : Bool) (ds : List Char) : Int :=
  let n : Int := Text.ofDigits 10 ds
  if negative then -n else n

def unboundedInteger? (cs : List Char) : Option Int :=
  match cs with
  | '0' :: 'x' :: ds => (digits? 16 ds).map fun ds => Text.ofDigits 16 ds
  | '0' :: 'o' :: ds => (digits? 8 ds).map fun ds => Text.ofDigits 8 ds
  | '0' :: 'b' :: ds => (digits? 2 ds).map fun ds => Text.ofDigits 2 ds
  | cs =>
    let (negative, ds) := Text.splitSign cs
    (whole? ds).map (signed negative)

/-- An integer of 64 bits. -/
def integer? (cs : List Char) : Option Int :=
  (unboundedInteger? cs).filter fun n => -0x8000000000000000 ≤ n && n ≤ 0x7fffffffffffffff

/-- The digits after a point, if there is one. -/
def fraction? : List Char → Option (List Char)
  | [] => some []
  | _ :: cs => digits? 10 cs

/-- The number after an exponent mark, if there is one. -/
def exponent? : List Char → Option Int
  | [] => some 0
  | _ :: cs =>
    let (negative, ds) := Text.splitSign cs
    (digits? 10 ds).map (signed negative)

/-- A decimal number with a fraction, an exponent or both. A positive number that is too large is
refused. -/
def decimal? (negative : Bool) (cs : List Char) : Option Decimal.Binary64 := do
  let (mantissa, mark) := cs.span fun c => c != 'e' && c != 'E'
  let (front, point) := mantissa.span (· != '.')
  let whole ← whole? front
  let places ← fraction? point
  let exponent ← exponent? mark
  let x := Decimal.Binary64.ofDecimal negative (Text.ofDigits 10 (whole ++ places))
    (exponent - places.length)
  if (point.isEmpty && mark.isEmpty) || x == .infinite false then none else some x

def float? (cs : List Char) : Option Decimal.Binary64 :=
  match Text.splitSign cs with
  | (negative, ['i', 'n', 'f']) => some (.infinite negative)
  | (_, ['n', 'a', 'n']) => some .nan
  | (negative, cs) => decimal? negative cs

/-! ## Dates and times -/

/-- The number of a list of decimal digits, if it lies between two others. -/
def numberBetween? (least most : Nat) (cs : List Char) : Option Nat :=
  let n := Text.ofDigits 10 cs
  if cs.all (Text.isDigitOf 10) && least ≤ n && n ≤ most then some n else none

def daysInMonth (year month : Nat) : Nat :=
  if month = 2 then
    if year % 4 = 0 ∧ (year % 100 ≠ 0 ∨ year % 400 = 0) then 29 else 28
  else if month ∈ [4, 6, 9, 11] then 30 else 31

/-- The date at the beginning, and what follows it. -/
def date? : List Char → Option (Date × List Char)
  | y₁ :: y₂ :: y₃ :: y₄ :: '-' :: m₁ :: m₂ :: '-' :: d₁ :: d₂ :: rest => do
    let year ← numberBetween? 0 9999 [y₁, y₂, y₃, y₄]
    let month ← numberBetween? 1 12 [m₁, m₂]
    let day ← numberBetween? 1 (daysInMonth year month) [d₁, d₂]
    return (⟨year, month, day⟩, rest)
  | _ => none

/-- The nanoseconds of the digits after the seconds' point; digits beyond the ninth do not count. -/
def nanoseconds (ds : List Char) : Nat :=
  Text.ofDigits 10 ((ds ++ List.replicate 9 '0').take 9)

/-- The time at the beginning, and what follows it. A minute may have a leap second. -/
def time? : List Char → Option (Time × List Char)
  | h₁ :: h₂ :: ':' :: m₁ :: m₂ :: ':' :: s₁ :: s₂ :: rest => do
    let hour ← numberBetween? 0 23 [h₁, h₂]
    let minute ← numberBetween? 0 59 [m₁, m₂]
    let second ← numberBetween? 0 60 [s₁, s₂]
    match rest with
    | '.' :: rest =>
      let (ds, rest) := rest.span (Text.isDigitOf 10)
      if ds.isEmpty then none else return (⟨hour, minute, second, nanoseconds ds⟩, rest)
    | rest => return (⟨hour, minute, second, 0⟩, rest)
  | _ => none

/-- The offset that makes up the whole text, which may be empty. -/
def offset? : List Char → Option (Option Offset)
  | [] => some none
  | ['Z'] | ['z'] => some (some .zulu)
  | sign :: h₁ :: h₂ :: ':' :: m₁ :: m₂ :: [] => do
    let hour ← numberBetween? 0 23 [h₁, h₂]
    let minute ← numberBetween? 0 59 [m₁, m₂]
    let n : Int := hour * 60 + minute
    if sign = '+' then some (some (.minutes n))
    else if sign = '-' then some (some (.minutes (-n)))
    else none
  | _ => none

/-- A date, a time, or both with an optional offset. -/
def datetime? (cs : List Char) : Option Datetime :=
  match date? cs with
  | some (date, []) => some { date := some date }
  | some (date, separator :: rest) => do
    if separator ∈ ['T', 't', ' '] then
      let (time, rest) ← time? rest
      let offset ← offset? rest
      return { date := some date, time := some time, offset }
    else none
  | none =>
    match time? cs with
    | some (time, []) => some { time := some time }
    | _ => none

def Value.ofWord? (cs : List Char) : Option Value :=
  if cs = "true".toList then some (.boolean true)
  else if cs = "false".toList then some (.boolean false)
  else ((integer? cs).map .integer <|> (float? cs).map .float) <|> (datetime? cs).map .datetime

end InputUdev.Toml

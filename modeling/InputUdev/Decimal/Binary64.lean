/-!
# Binary floating point numbers

The numbers with 53 significant bits and exponents as in double precision, and the rounding of a
decimal number to the nearest of them, a tie going to the even significand.
-/

namespace InputUdev.Decimal

/-- A finite number is `significand * 2 ^ exponent` with its sign; the significand is below `2 ^ 53`
and the exponent at least `-1074`. -/
inductive Binary64 where
  | nan
  | infinite (negative : Bool)
  | finite (negative : Bool) (significand : Nat) (exponent : Int)
  deriving DecidableEq, Repr

/-- A fraction `num / den`; the denominator is not zero where one is built. -/
structure Ratio where
  num : Nat
  den : Nat

namespace Ratio

/-- The fraction times `base ^ e`. -/
def scale (x : Ratio) (base : Nat) (e : Int) : Ratio :=
  if 0 ≤ e then ⟨x.num * base.pow e.toNat, x.den⟩ else ⟨x.num, x.den * base.pow (-e).toNat⟩

def le (x y : Ratio) : Bool := decide (x.num * y.den ≤ y.num * x.den)

def lt (x y : Ratio) : Bool := !y.le x

def floor (x : Ratio) : Nat := x.num / x.den

/-- The nearest integer, the even one of two equally near. -/
def round (x : Ratio) : Nat :=
  let q := x.num / x.den
  let twice := 2 * (x.num % x.den)
  if twice < x.den then q
  else if x.den < twice then q + 1
  else if q % 2 = 0 then q else q + 1

/-- The greatest `e` with `base ^ e ≤ x`, for a fraction that is not zero, from a guess that is at
most one too high. -/
def logFrom (x : Ratio) (base : Nat) (guess : Int) : Int :=
  if (Ratio.scale ⟨1, 1⟩ base guess).le x then guess else guess - 1

def log2 (x : Ratio) : Int := x.logFrom 2 ((x.num.log2 : Int) - x.den.log2)

end Ratio

namespace Binary64

def significandBits : Nat := 53

def leastExponent : Int := -1074

/-- The exponent of the greatest finite numbers. -/
def greatestExponent : Int := 971

/-- The number nearest to a fraction. -/
def ofRatio (negative : Bool) (x : Ratio) : Binary64 :=
  if x.num = 0 then finite negative 0 leastExponent
  else
    let e := max (x.log2 - (significandBits - 1 : Nat)) leastExponent
    let m := (x.scale 2 (-e)).round
    let (m, e) :=
      if m = Nat.pow 2 significandBits then (Nat.pow 2 (significandBits - 1), e + 1) else (m, e)
    if greatestExponent < e then infinite negative else finite negative m e

/-- The number nearest to `digits * 10 ^ e`. A number of more than 400 digits before the point is
infinite and one with more than 400 zeros after it is zero, whatever its digits. -/
def ofDecimal (negative : Bool) (digits : Nat) (e : Int) : Binary64 :=
  let size : Int := (Nat.toDigits 10 digits).length + e
  if digits = 0 ∨ size < -400 then finite negative 0 leastExponent
  else if 400 < size then infinite negative
  else ofRatio negative (Ratio.scale ⟨digits, 1⟩ 10 e)

end Binary64
end InputUdev.Decimal

import InputUdev.Decimal.Shortest

/-!
# Decimal notation

How a floating point number is written: which numbers are written positionally, and with how many
places at least.
-/

namespace InputUdev.Decimal

structure Notation where
  /-- Positional down to this power of ten. -/
  least : Int
  /-- Positional below this power of ten. -/
  most : Int
  /-- Places after the point of a number written positionally. -/
  places : Nat
  nan : String
  infinity : String

namespace Notation

def sign (negative : Bool) : String := if negative then "-" else ""

def text (ds : List Nat) : String := String.ofList (ds.map fun d => Char.ofNat (48 + d))

/-- The digits around the point, zeros filled in. -/
def positional (f : Notation) (x : Digits) : String :=
  let whole :=
    if x.point ≤ 0 then [0]
    else x.digits.take x.point.toNat ++ List.replicate (x.point.toNat - x.digits.length) 0
  let fraction := List.replicate (-x.point).toNat 0 ++ x.digits.drop x.point.toNat
  let fraction := fraction ++ List.replicate (f.places - fraction.length) 0
  if fraction.isEmpty then text whole else text whole ++ "." ++ text fraction

/-- One digit before the point, no point without a fraction, and the exponent after an `e`. -/
def scientific (x : Digits) : String :=
  let fraction := x.digits.drop 1
  let mantissa := if fraction.isEmpty then "" else "." ++ text fraction
  text (x.digits.take 1) ++ mantissa ++ "e" ++ toString (x.point - 1)

def render (f : Notation) : Binary64 → String
  | .nan => f.nan
  | .infinite negative => sign negative ++ f.infinity
  | .finite negative 0 _ => sign negative ++ f.positional ⟨[], 0⟩
  | .finite negative m e =>
    let x := shortest m e
    sign negative ++
      if f.least < x.point ∧ x.point ≤ f.most then f.positional x else scientific x

end Notation
end InputUdev.Decimal

import InputUdev.Decimal.Binary64

/-!
# Shortest decimals

The decimal with the fewest digits that rounds to a given binary number; of two such decimals the
nearer, and the greater of two equally near.
-/

namespace InputUdev.Decimal

/-- A decimal `0.d₁d₂… * 10 ^ point`, its digits without zeros at either end. -/
structure Digits where
  digits : List Nat
  point : Int
  deriving DecidableEq, Repr

/-- The numbers that round to a binary number: those between `low` and `high`, and the ends
themselves if `closed`. -/
structure Rounding where
  value : Ratio
  low : Ratio
  high : Ratio
  closed : Bool

namespace Rounding

/-- The interval of a finite number other than zero. Below a power of two the next number is only
half as far away. -/
def ofFinite (m : Nat) (e : Int) : Rounding :=
  let unit (quarters : Nat) : Ratio := Ratio.scale ⟨quarters, 4⟩ 2 e
  let narrow := m == Nat.pow 2 (Binary64.significandBits - 1) && Binary64.leastExponent < e
  { value := unit (4 * m)
    low := unit (4 * m - if narrow then 1 else 2)
    high := unit (4 * m + 2)
    closed := m % 2 == 0 }

def contains (i : Rounding) (x : Ratio) : Bool :=
  if i.closed then i.low.le x && x.le i.high else i.low.lt x && x.lt i.high

/-- The greatest `e` with `10 ^ e` at most the value. -/
def log10 (i : Rounding) : Int :=
  let whole := i.value.floor
  if 0 < whole then (Nat.toDigits 10 whole).length - 1
  else
    let reached (k : Nat) : Bool := decide (i.value.den ≤ i.value.num * Nat.pow 10 k)
    Int.neg (((List.range 330).find? reached).getD 330)

/-- A multiple of `10 ^ grid` in the interval that is a neighbour of the value, if there is one. -/
def onGrid? (i : Rounding) (grid : Int) : Option Nat :=
  let below := (i.value.scale 10 (-grid)).floor
  let on (n : Nat) : Ratio := Ratio.scale ⟨n, 1⟩ 10 grid
  let above := below + 1
  -- the middle of the two neighbours, to tell which is nearer
  let middle : Ratio := Ratio.scale ⟨2 * below + 1, 2⟩ 10 grid
  match 0 < below && i.contains (on below), i.contains (on above) with
  | true, true => some (if middle.le i.value then above else below)
  | true, false => some below
  | false, true => some above
  | false, false => none

end Rounding

/-- The digits of a natural number other than zero, without the zeros at the end. -/
def trimmedDigits (n : Nat) : List Nat :=
  let ds := (Nat.toDigits 10 n).map fun c => c.toNat - 48
  (ds.reverse.dropWhile (· == 0)).reverse

/-- The shortest decimal of `m * 2 ^ e`, for `m` other than zero. Seventeen digits always
suffice. -/
def shortest (m : Nat) (e : Int) : Digits :=
  let i := Rounding.ofFinite m e
  let top := i.log10
  let found := (List.range 17).findSome? fun (k : Nat) =>
    let grid := top - (k : Int)
    (i.onGrid? grid).map fun n => (n, grid)
  let (n, grid) := found.getD (i.value.floor, 0)
  ⟨trimmedDigits n, (Nat.toDigits 10 n).length + grid⟩

end InputUdev.Decimal

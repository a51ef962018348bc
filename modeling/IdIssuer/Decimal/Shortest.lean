/-!
# Shortest decimals

The shortest decimal of a finite double is the one with the fewest digits among those that round to
it, and of these the nearest. `Decimal.shortest` decodes the double into
`significand · 2 ^ exponent` and takes the interval of reals that round to it, ends included if the
significand is even. On the decimal grids with 1, 2, … 17 digits it then tests the two neighbours of
the value in exact arithmetic: the first grid that meets the interval wins, and of two hits the
nearer, the larger one at an exact tie.
-/

namespace IdIssuer

/-- The number `digits · 10 ^ exponent`. -/
structure Decimal where
  digits : Nat
  exponent : Int
deriving Repr, DecidableEq

namespace Decimal

/-- The reals around a positive double that round to it: `low`, `value` and `high` share the
denominator `den`, and `closed` says whether the ends belong to them. -/
structure Interval where
  low : Nat
  value : Nat
  high : Nat
  den : Nat
  closed : Bool

namespace Interval

/-- The interval of `significand · 2 ^ exponent`. Below a power of two the doubles lie twice as
dense, so that a `narrow` interval ends half as far down. -/
def ofBinary (significand : Nat) (exponent : Int) (narrow : Bool) : Interval :=
  let unit := Nat.pow 2 exponent.toNat
  let value := 4 * significand * unit
  { low := value - (if narrow then unit else 2 * unit)
    value
    high := value + 2 * unit
    den := 4 * Nat.pow 2 (-exponent).toNat
    closed := significand % 2 = 0 }

/-- The interval of the double with these bits, its sign apart. -/
def ofBits (bits : UInt64) : Interval :=
  let fraction := (bits &&& 0xFFFFFFFFFFFFF).toNat
  let field := ((bits >>> 52) &&& 0x7FF).toNat
  if field = 0 then ofBinary fraction (-1074) false
  else ofBinary (fraction + 0x10000000000000) (field - 1075) (fraction = 0 && 1 < field)

/-- The grid point `n · 10 ^ k` lies in the interval. -/
def contains (i : Interval) (n : Nat) (k : Int) : Bool :=
  let point := n * Nat.pow 10 k.toNat * i.den
  let low := i.low * Nat.pow 10 (-k).toNat
  let high := i.high * Nat.pow 10 (-k).toNat
  if i.closed then low ≤ point && point ≤ high else low < point && point < high

/-- The last point `n · 10 ^ k` of a grid that is not above the value. -/
def below (i : Interval) (k : Int) : Nat :=
  i.value * Nat.pow 10 (-k).toNat / (i.den * Nat.pow 10 k.toNat)

/-- The point after `n` is at least as near to the value as `n · 10 ^ k` is. -/
def nearerAbove (i : Interval) (n : Nat) (k : Int) : Bool :=
  (2 * n + 1) * Nat.pow 10 k.toNat * i.den ≤ 2 * i.value * Nat.pow 10 (-k).toNat

/-- The place `p` of the value's leading digit: `10 ^ (p - 1) ≤ value < 10 ^ p`. -/
def places (i : Interval) : Int :=
  if i.den ≤ i.value then (Nat.toDigits 10 (i.value / i.den)).length
  else
    let zeros := (Nat.toDigits 10 (i.den / i.value)).length
    if i.den ≤ i.value * Nat.pow 10 (zeros - 1) then 2 - zeros else 1 - zeros

/-- The point of the grid of `10 ^ k` that reads back as the double, if there is one. -/
def onGrid? (i : Interval) (k : Int) : Option Decimal :=
  let n := i.below k
  match i.contains n k, i.contains (n + 1) k with
  | true, true => some ⟨if i.nearerAbove n k then n + 1 else n, k⟩
  | true, false => some ⟨n, k⟩
  | false, true => some ⟨n + 1, k⟩
  | false, false => none

end Interval

/-- The same number without zeros at the end of its digits. -/
def trim (d : Decimal) : Decimal :=
  if h : 0 < d.digits ∧ d.digits % 10 = 0 then trim ⟨d.digits / 10, d.exponent + 1⟩ else d
termination_by d.digits
decreasing_by exact Nat.div_lt_self h.1 (by decide)

/-- The shortest decimal that reads back as the double with these bits, the nearest of them; the
sign is left out, and the bits are those of a finite double other than zero. -/
def shortest (bits : UInt64) : Decimal :=
  let interval := Interval.ofBits bits
  let places := interval.places
  match (List.range' 1 17).findSome? fun (n : Nat) => interval.onGrid? (places - n) with
  | some decimal => decimal.trim
  | none => ⟨interval.below (places - 17), places - 17⟩

end Decimal

end IdIssuer

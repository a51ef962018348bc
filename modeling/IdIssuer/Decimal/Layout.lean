import IdIssuer.Decimal.Shortest

/-!
# The text of a double

A `Layout` decides how the shortest digits of a double are set: up to which magnitudes a point is
put among them, and whether a whole number keeps a final `.0`. Beyond those magnitudes one digit
stands before the point and an exponent follows.
-/

namespace IdIssuer

namespace Decimal

/-- How the digits of a double are set. -/
structure Layout where
  /-- The place of the leading digit at which a number is still written without an exponent. -/
  positional : Int → Bool
  /-- What follows a whole number. -/
  wholeEnding : String

namespace Layout

/-- Never an exponent, and whole numbers bare. -/
def plain : Layout := ⟨fun _ => true, ""⟩

/-- An exponent below `10 ^ -4` and from `10 ^ 16` on, and whole numbers with a `.0`. -/
def diagnostic : Layout := ⟨fun place => -4 < place && place ≤ 16, ".0"⟩

/-- The digits with a point at their place. -/
def point (layout : Layout) (digits : List Char) (place : Int) : String :=
  let count := place.toNat
  if place ≤ 0 then "0." ++ String.ofList (List.replicate (-place).toNat '0' ++ digits)
  else if digits.length ≤ count then
    String.ofList (digits ++ List.replicate (count - digits.length) '0') ++ layout.wholeEnding
  else String.ofList (digits.take count) ++ "." ++ String.ofList (digits.drop count)

/-- The digits with the point after the first of them, and an exponent. -/
def scientific (digits : List Char) (place : Int) : String :=
  let rest := digits.drop 1
  String.ofList (digits.take 1) ++ (if rest.isEmpty then "" else "." ++ String.ofList rest) ++
    s!"e{place - 1}"

/-- The text of a double other than zero, its sign apart. -/
def magnitude (layout : Layout) (bits : UInt64) : String :=
  let decimal := shortest bits
  let digits := Nat.toDigits 10 decimal.digits
  let place := digits.length + decimal.exponent
  if layout.positional place then layout.point digits place else scientific digits place

/-- The text of a double. -/
def text (layout : Layout) (x : Float) : String :=
  if x.isNaN then "NaN"
  else
    let bits := x.toBits
    let sign := if bits >>> 63 = 1 then "-" else ""
    if x.isInf then sign ++ "inf"
    else if bits <<< 1 = 0 then sign ++ "0" ++ layout.wholeEnding
    else sign ++ layout.magnitude bits

end Layout

end Decimal

end IdIssuer

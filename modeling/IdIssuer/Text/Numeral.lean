/-!
# Numerals in text

The numerals that options are given in. A whole numeral is a run of ASCII digits, after a plus sign
if one likes, whose value fits a 64-bit word. A real numeral has a sign, digits with at most one
point among them, and an exponent, of which only one digit is required; `inf`, `infinity` and `nan`
are read too, in any case. Nothing else is a numeral: no blanks, no separators, no other radix.
-/

namespace IdIssuer

namespace Numeral

/-- The value of a run of digits. -/
def value (digits : List Char) : Nat :=
  digits.foldl (fun n c => 10 * n + (c.toNat - '0'.toNat)) 0

/-- Reads a whole numeral. -/
def whole? (text : String) : Option UInt64 :=
  let digits := match text.toList with
    | '+' :: rest => rest
    | cs => cs
  if digits.isEmpty || !digits.all Char.isDigit then none
  else if value digits < UInt64.size then some (.ofNat (value digits))
  else none

/-- Takes a sign off: whether it is a minus, and what follows it. -/
def sign : List Char → Bool × List Char
  | '-' :: rest => (true, rest)
  | '+' :: rest => (false, rest)
  | cs => (false, cs)

/-- Reads what follows the digits: nothing, or an exponent. -/
def exponent? : List Char → Option Int
  | [] => some 0
  | c :: rest =>
    let (negative, digits) := sign rest
    if c.toLower ≠ 'e' || digits.isEmpty || !digits.all Char.isDigit then none
    else some (if negative then -value digits else value digits)

/-- The double nearest to `digits · 10 ^ exponent`. Past the places that doubles reach, the answer
is infinity or zero without any power being computed. -/
def nearest (digits : Nat) (exponent : Int) : Float :=
  let place := (Nat.toDigits 10 digits).length + exponent
  if digits = 0 || place < -400 then 0.0
  else if 400 < place then 1.0 / 0.0
  else Float.ofScientific digits (exponent < 0) exponent.natAbs

/-- Reads a numeral without its sign. -/
def unsigned? (cs : List Char) : Option Float :=
  if cs.map Char.toLower ∈ ["inf".toList, "infinity".toList] then some (1.0 / 0.0)
  else if cs.map Char.toLower = "nan".toList then some (0.0 / 0.0)
  else
    let whole := cs.takeWhile Char.isDigit
    let (fraction, rest) := match cs.dropWhile Char.isDigit with
      | '.' :: rest => (rest.takeWhile Char.isDigit, rest.dropWhile Char.isDigit)
      | rest => ([], rest)
    let digits := whole ++ fraction
    if digits.isEmpty then none
    else (exponent? rest).map fun e => nearest (value digits) (e - fraction.length)

/-- Reads a real numeral. -/
def real? (text : String) : Option Float :=
  let (negative, rest) := sign text.toList
  (unsigned? rest).map fun x => if negative then -x else x

end Numeral

end IdIssuer

import KeyCluster.Number.Shortest

/-! Doubles as decimals with as many digits as are asked for, each digit rounded correctly. -/

namespace KeyCluster.Decimal

/-- The first `count` digits of `mantissa * 2 ^ exponent`, rounded, and the place of the point before
them. -/
def significant (count mantissa : Nat) (exponent : Int) : List Char × Int :=
  if mantissa == 0 then (List.replicate count '0', 1)
  else
    let (num, den) := Double.quotient mantissa exponent
    let point := Shortest.magnitude num den
    let scale := (count : Int) - point
    let digits := Nat.toDigits 10
      (Double.roundQuotient (num * Nat.pow 10 scale.toNat) (den * Nat.pow 10 (-scale).toNat))
    -- Rounding up can reach the next power of ten, which has one digit more.
    if count < digits.length then (digits.take count, point + 1) else (digits, point)

/-- The digits of `mantissa * 2 ^ exponent` before and after the point, rounded to `places`. -/
def places (places mantissa : Nat) (exponent : Int) : List Char × List Char :=
  let (num, den) := Double.quotient mantissa exponent
  let digits := Nat.toDigits 10 (Double.roundQuotient (num * Nat.pow 10 places) den)
  let padded := List.replicate (places + 1 - digits.length) '0' ++ digits
  padded.splitAt (padded.length - places)

/-- Digits without the zeros that end them. -/
def trimmed (digits : List Char) : List Char :=
  (digits.reverse.dropWhile (· == '0')).reverse

/-- Digits around a point, which is left out where nothing follows it, unless it is wanted there. -/
def pointed (wanted : Bool) (whole fraction : List Char) : List Char :=
  if fraction.isEmpty && !wanted then whole else whole ++ '.' :: fraction

/-- Digits with the point after the first of them, and an exponent. -/
def scientific (wanted : Bool) (digits : List Char) (point : Int) : List Char :=
  pointed wanted (digits.take 1) (digits.drop 1) ++ 'e' :: Shortest.exponentText (point - 1)

/-- A number in positions, with `count` digits after the point. -/
def fixedText (wanted : Bool) (count mantissa : Nat) (exponent : Int) : List Char :=
  let (whole, fraction) := places count mantissa exponent
  pointed wanted whole fraction

/-- A number with one digit before the point, `count` digits after it, and an exponent. -/
def scientificText (wanted : Bool) (count mantissa : Nat) (exponent : Int) : List Char :=
  let (digits, point) := significant (count + 1) mantissa exponent
  scientific wanted digits point

/-- A number with `count` digits: in positions unless it is small or has more digits before the point.
Zeros at the end are left out, unless the point is wanted. -/
def generalText (wanted : Bool) (count mantissa : Nat) (exponent : Int) : List Char :=
  let (digits, point) := significant (max count 1) mantissa exponent
  let shown (fraction : List Char) := if wanted then fraction else trimmed fraction
  if point ≤ -4 || (digits.length : Int) < point then
    scientific wanted (digits.take 1 ++ shown (digits.drop 1)) point
  else if point ≤ 0 then
    pointed wanted ['0'] (shown (List.replicate (-point).toNat '0' ++ digits))
  else pointed wanted (digits.take point.toNat) (shown (digits.drop point.toNat))

end KeyCluster.Decimal

/-! Doubles as exact numbers: an integer times a power of two. -/

namespace KeyCluster.Double

/-- What a double stands for. -/
inductive View where
  | nan
  | infinite (negative : Bool)
  /-- The number `mantissa * 2 ^ exponent`, with a sign that zero carries too. -/
  | finite (negative : Bool) (mantissa : Nat) (exponent : Int)
  deriving DecidableEq, Repr

/-- Reads the sign, the exponent and the fraction off the bits of a double. -/
def view (x : Float) : View :=
  let bits := x.toBits.toNat
  let negative := bits / Nat.pow 2 63 == 1
  let exponent : Nat := bits / Nat.pow 2 52 % 2048
  let fraction := bits % Nat.pow 2 52
  if exponent == 2047 then
    if fraction == 0 then .infinite negative else .nan
  -- The least exponent has no hidden bit: its numbers shrink evenly to zero.
  else if exponent == 0 then .finite negative fraction (-1074)
  else .finite negative (fraction + Nat.pow 2 52) ((exponent : Int) - 1075)

/-- The size of a finite number as a quotient of natural numbers. -/
def quotient (mantissa : Nat) (exponent : Int) : Nat × Nat :=
  (mantissa * Nat.pow 2 exponent.toNat, Nat.pow 2 (-exponent).toNat)

/-- An integer with a given sign and size. -/
def signed (negative : Bool) (size : Nat) : Int :=
  if negative then -(size : Int) else size

/-- The integer part of a number, toward zero. -/
def truncate (negative : Bool) (mantissa : Nat) (exponent : Int) : Int :=
  let (num, den) := quotient mantissa exponent
  signed negative (num / den)

/-- How a double compares with an integer, exactly; no number compares with nothing. -/
def compareInt (x : Float) (i : Int) : Option Ordering :=
  match view x with
  | .nan => none
  | .infinite negative => some (if negative then .lt else .gt)
  | .finite negative mantissa exponent =>
    let (num, den) := quotient mantissa exponent
    some (compare (signed negative num) (i * den))

/-- How two doubles compare; no number compares with nothing. -/
def compareDouble (x y : Float) : Option Ordering :=
  if x < y then some .lt
  else if y < x then some .gt
  else if x == y then some .eq
  else none

/-- The double nearest to an integer, if the integer is not too large for one. -/
def ofInt? (i : Int) : Option Float :=
  let x := Float.ofInt i
  match view x with
  | .finite _ _ _ => some x
  | _ => none

/-- A quotient rounded to the nearest natural number, halves to the even one. -/
def roundQuotient (num den : Nat) : Nat :=
  let whole := num / den
  let twice := 2 * (num % den)
  if twice < den then whole
  else if den < twice then whole + 1
  else if whole % 2 == 0 then whole
  else whole + 1

/-- How many decimal digits a natural number has. -/
def digitCount (n : Nat) : Nat :=
  (Nat.toDigits 10 n).length

/-- The double nearest to `digits * 10 ^ exponent`. -/
def ofDecimal (negative : Bool) (digits : Nat) (exponent : Int) : Float :=
  let size : Float :=
    if digits == 0 then 0
    -- Far outside the range of doubles the power itself is never computed.
    else if 310 < digitCount digits + exponent then 1 / 0
    else if digitCount digits + exponent < -330 then 0
    else Float.ofScientific digits (exponent < 0) exponent.natAbs
  if negative then -size else size

/-- A double with everything beyond `places` decimal places rounded away, halves of the exact value to
the even neighbour. -/
def roundTo (places : Nat) (x : Float) : Float :=
  match view x with
  | .finite negative mantissa exponent =>
    let (num, den) := quotient mantissa exponent
    ofDecimal negative (roundQuotient (num * Nat.pow 10 places) den) (-places)
  | _ => x

end KeyCluster.Double

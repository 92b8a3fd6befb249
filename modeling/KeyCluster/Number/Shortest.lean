import KeyCluster.Number.Double
import KeyCluster.Text.Basic

/-! The shortest decimal that reads back as a given double, and how it is laid out as text. -/

namespace KeyCluster.Shortest

/-- The number `0.digits * 10 ^ point`. -/
structure Decimal where
  /-- The decimal digits, the first of which is not zero. -/
  digits : List Char
  /-- Where the decimal point stands, counted from before the first digit. -/
  point : Int
  deriving DecidableEq, Repr

/-- The decimal `coefficient * 10 ^ exponent`, without the zeros that end its digits. -/
def Decimal.ofScaled (coefficient : Nat) (exponent : Int) : Decimal :=
  let written := Nat.toDigits 10 coefficient
  { digits := (written.reverse.dropWhile (· == '0')).reverse, point := written.length + exponent }

/-- The least power of ten above a positive quotient. -/
def magnitude (num den : Nat) : Int :=
  let guess : Int := (Double.digitCount num : Int) - Double.digitCount den
  -- The digit counts leave two candidates, and one comparison decides.
  if num * Nat.pow 10 (-guess).toNat < den * Nat.pow 10 guess.toNat then guess else guess + 1

/-- A positive number between the two ends of the reals that round to it, all over one denominator. -/
structure Interval where
  low : Nat
  value : Nat
  high : Nat
  den : Nat
  /-- Whether the ends themselves round to the number. -/
  closed : Bool

/-- The reals that round to `mantissa * 2 ^ exponent`. -/
def Interval.ofDouble (mantissa : Nat) (exponent : Int) : Interval :=
  -- In quarters of the last bit every end is a whole number.
  let (scale, den) := Double.quotient 1 (exponent - 2)
  -- Below a power of two the doubles lie twice as close.
  let gap := if mantissa == Nat.pow 2 52 && exponent != -1074 then 1 else 2
  { low := (4 * mantissa - gap) * scale, value := 4 * mantissa * scale,
    high := (4 * mantissa + 2) * scale, den, closed := mantissa % 2 == 0 }

/-- Whether `coefficient * 10 ^ exponent` lies in an interval. -/
def Interval.holds (interval : Interval) (coefficient : Nat) (exponent : Int) : Bool :=
  let here := coefficient * Nat.pow 10 exponent.toNat * interval.den
  let scale := Nat.pow 10 (-exponent).toNat
  if interval.closed then interval.low * scale ≤ here && here ≤ interval.high * scale
  else interval.low * scale < here && here < interval.high * scale

/-- The point of the grid `10 ^ exponent` that lies in an interval, the nearer one of two. -/
def Interval.gridPoint? (interval : Interval) (exponent : Int) : Option Nat :=
  let num := interval.value * Nat.pow 10 (-exponent).toNat
  let den := interval.den * Nat.pow 10 exponent.toNat
  let below := num / den
  match interval.holds below exponent, interval.holds (below + 1) exponent with
  | true, true => some (Double.roundQuotient num den)
  | true, false => some below
  | false, true => some (below + 1)
  | false, false => none

/-- The first grid with a point in the interval, from `count` digits on while `fuel` lasts. -/
def Interval.search (interval : Interval) (top : Int) : (fuel count : Nat) → Nat × Int
  | 0, count => (interval.value / interval.den, top - count)
  | fuel + 1, count =>
    match interval.gridPoint? (top - count) with
    | some coefficient => (coefficient, top - count)
    | none => interval.search top fuel (count + 1)

/-- The shortest decimal that rounds to the positive number `mantissa * 2 ^ exponent`. -/
def decimal (mantissa : Nat) (exponent : Int) : Decimal :=
  let interval := Interval.ofDouble mantissa exponent
  -- Seventeen digits always tell a double from its neighbours.
  let (coefficient, scale) := interval.search (magnitude interval.value interval.den) 17 1
  Decimal.ofScaled coefficient scale

/-- How doubles are written. -/
structure Layout where
  /-- The least exponent that is still written in positions. -/
  least : Int
  /-- The first exponent that is no longer written in positions. -/
  limit : Int
  nan : Text
  infinity : Text

/-- An exponent with its sign and at least two digits. -/
def exponentText (exponent : Int) : List Char :=
  let digits := Nat.toDigits 10 exponent.natAbs
  (if exponent < 0 then '-' else '+') :: (if digits.length < 2 then '0' :: digits else digits)

/-- A decimal in positions, with a digit on either side of the point. -/
def positional (d : Decimal) : List Char :=
  let count : Int := d.digits.length
  if d.point ≤ 0 then '0' :: '.' :: List.replicate (-d.point).toNat '0' ++ d.digits
  else if count ≤ d.point then d.digits ++ List.replicate (d.point - count).toNat '0' ++ ['.', '0']
  else d.digits.take d.point.toNat ++ '.' :: d.digits.drop d.point.toNat

/-- A decimal with one digit before the point and an exponent. -/
def scientific (d : Decimal) : List Char :=
  let fraction := match d.digits.drop 1 with
    | [] => []
    | digits => '.' :: digits
  d.digits.take 1 ++ fraction ++ 'e' :: exponentText (d.point - 1)

/-- A sign before what is negative. -/
def withSign (negative : Bool) (text : Text) : Text :=
  if negative then .char '-' :: text else text

/-- A double as text: the shortest digits that read back. -/
def text (layout : Layout) (x : Float) : Text :=
  match Double.view x with
  | .nan => layout.nan
  | .infinite negative => withSign negative layout.infinity
  | .finite negative 0 _ => withSign negative "0.0"
  | .finite negative mantissa exponent =>
    let d := decimal mantissa exponent
    -- The exponent of the first digit is one below the point's place.
    let body := if layout.least ≤ d.point - 1 && d.point - 1 < layout.limit then positional d
      else scientific d
    withSign negative (Text.ofChars body)

end KeyCluster.Shortest

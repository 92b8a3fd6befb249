import KeyCluster.Yaml.Fault

/-! Days and moments as documents write them. -/

namespace KeyCluster.Yaml

/-- A time of day as digits. -/
structure Clock where
  hour : List Char
  minute : List Char
  second : List Char
  fraction : List Char
  /-- How many seconds the clock is ahead of universal time, if that is said. -/
  offset : Option Int

/-- A day as digits, perhaps with a time. -/
structure Timestamp where
  year : List Char
  month : List Char
  day : List Char
  clock : Option Clock

namespace Timestamp

/-- The digits that a text begins with and the text after them, if they are neither too few nor too
many. -/
def digits? (least most : Nat) (text : List Char) : Option (List Char × List Char) :=
  let found := text.takeWhile Char.isDigit
  if least ≤ found.length && found.length ≤ most then some (found, text.dropWhile Char.isDigit)
  else none

/-- The text after a character. -/
def after? (c : Char) : List Char → Option (List Char)
  | d :: rest => if d == c then some rest else none
  | [] => none

/-- The number of digits. -/
def number (digits : List Char) : Nat :=
  digits.foldl (fun n c => n * 10 + (c.toNat - '0'.toNat)) 0

/-- The distance from universal time after its sign. -/
def distance? (text : List Char) : Option Int := do
  let (hours, rest) ← digits? 1 2 text
  match rest with
  | [] => return 3600 * number hours
  | ':' :: rest =>
    let (minutes, rest) ← digits? 2 2 rest
    if rest.isEmpty then return 3600 * number hours + 60 * number minutes else none
  | _ => none

/-- What is said about universal time at the end of a text. -/
def offset? (text : List Char) : Option (Option Int) :=
  match text with
  | [] => some none
  | text => match text.dropWhile fun c => c == ' ' || c == '\t' with
    | ['Z'] => some (some 0)
    | '+' :: rest => (distance? rest).map some
    | '-' :: rest => (distance? rest).map fun seconds => some (-seconds)
    | _ => none

/-- The time of day that a text is. -/
def clock? (text : List Char) : Option Clock := do
  let (hour, rest) ← digits? 1 2 text
  let (minute, rest) ← digits? 2 2 (← after? ':' rest)
  let (second, rest) ← digits? 2 2 (← after? ':' rest)
  let (fraction, rest) := match rest with
    | '.' :: rest => (rest.takeWhile Char.isDigit, rest.dropWhile Char.isDigit)
    | rest => ([], rest)
  return { hour, minute, second, fraction, offset := ← offset? rest }

/-- The time of day after what separates it from the day. -/
def separated? : List Char → Option (Option Clock)
  | [] => some none
  | c :: rest =>
    if c == 'T' || c == 't' then (clock? rest).map some
    else if c == ' ' || c == '\t' then
      (clock? (rest.dropWhile fun c => c == ' ' || c == '\t')).map some
    else none

/-- The timestamp that a text is. -/
def read? (text : List Char) : Option Timestamp := do
  let (year, rest) ← digits? 4 4 text
  let (month, rest) ← digits? 1 2 (← after? '-' rest)
  let (day, rest) ← digits? 1 2 (← after? '-' rest)
  return { year, month, day, clock := ← separated? rest }

/-- Whether a text has the form of a timestamp. A day alone is written with all its digits. -/
def isTimestamp (text : List Char) : Bool :=
  match read? text with
  | some stamp => stamp.clock.isSome || (stamp.month.length == 2 && stamp.day.length == 2)
  | none => false

/-- The day of a timestamp. -/
def date (stamp : Timestamp) : Except Date.Fault Date :=
  Date.make (number stamp.year) (number stamp.month) (number stamp.day)

/-- The millionths that the digits after the point make. -/
def micros (fraction : List Char) : Nat :=
  number ((fraction ++ List.replicate 6 '0').take 6)

/-- The day or moment of a timestamp. -/
def toValue (stamp : Timestamp) : Except Date.Fault Value :=
  match stamp.clock with
  | none => stamp.date.map .date
  | some clock =>
    (Moment.make stamp.date (number clock.hour) (number clock.minute) (number clock.second)
      (micros clock.fraction) clock.offset).map .moment

end Timestamp

end KeyCluster.Yaml

import KeyCluster.Calendar.Date

/-! A time of day on a date, perhaps with its distance from universal time; and universal time, counted from
the first moment of the year 1970. -/

namespace KeyCluster

/-- A point in time as a calendar and a clock show it. -/
structure Moment where
  date : Date
  hour : Nat
  minute : Nat
  second : Nat
  micros : Nat
  /-- How many seconds the clock is ahead of universal time, if that is known. -/
  offset : Option Int
  deriving DecidableEq, Repr, Inhabited

namespace Moment

/-- The moment with these numbers, if calendar and clock have it. -/
def make (date : Except Date.Fault Date) (hour minute second micros : Nat) (offset : Option Int) :
    Except Date.Fault Moment := do
  -- The distance from universal time is looked at before anything else.
  if let some seconds := offset then
    if 86400 ≤ seconds.natAbs then throw (.offset seconds)
  let date ← date
  if 23 < hour then throw .hour
  if 59 < minute then throw .minute
  if 59 < second then throw .second
  return { date, hour, minute, second, micros, offset }

/-- The millionths of a second from the beginning of the year one to a moment, by its own clock. -/
def microsFromStart (m : Moment) : Int :=
  let seconds := ((m.date.dayNumber * 24 + m.hour) * 60 + m.minute) * 60 + m.second
  (seconds * 1000000 + m.micros : Nat)

/-- Whether two moments are the same point in time. One whose distance from universal time is not known is
no point in time, and so the same as others of its kind only. -/
def isSame (a b : Moment) : Bool :=
  match a.offset, b.offset with
  | none, none => a == b
  | some x, some y => a.microsFromStart - x * 1000000 == b.microsFromStart - y * 1000000
  | _, _ => false

/-- Hours, minutes and seconds, with the millionths if there are any. -/
def clockText (hour minute second micros : Nat) : List Char :=
  Date.padded 2 hour ++ ':' :: Date.padded 2 minute ++ ':' :: Date.padded 2 second
    ++ (if micros == 0 then [] else '.' :: Date.padded 6 micros)

/-- The distance from universal time, in hours and minutes with a sign. -/
def offsetText (seconds : Int) : List Char :=
  let size := seconds.natAbs
  (if seconds < 0 then '-' else '+') ::
    Date.padded 2 (size / 3600) ++ ':' :: Date.padded 2 (size / 60 % 60)

/-- Date and time with a character between them. -/
def text (separator : Char) (m : Moment) : List Char :=
  m.date.text ++ separator :: clockText m.hour m.minute m.second m.micros
    ++ (m.offset.map offsetText).getD []

end Moment

end KeyCluster

namespace KeyCluster.Epoch

/-- A second of universal time, as calendar and clock show it. The year may lie outside the calendar. -/
structure Second where
  year : Int
  month : Nat
  day : Nat
  hour : Nat
  minute : Nat
  second : Nat
  deriving DecidableEq, Repr

/-- The second that lies a number of seconds after the first moment of 1970. -/
def second (seconds : Int) : Second :=
  let days := seconds.fdiv 86400
  let clock := (seconds - days * 86400).toNat
  let (year, month, day) := Date.ofEpochDays days
  { year, month, day, hour := clock / 3600, minute := clock / 60 % 60, second := clock % 60 }

end KeyCluster.Epoch

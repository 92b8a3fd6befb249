/-! Days of the civil calendar. -/

namespace KeyCluster

/-- A day of the calendar. -/
structure Date where
  year : Nat
  month : Nat
  day : Nat
  deriving DecidableEq, Repr, Inhabited

namespace Date

/-- Which part of a date or time of day lies outside its range. -/
inductive Fault where
  | year (year : Int)
  | month
  | day
  | hour
  | minute
  | second
  /-- The distance from universal time, in seconds, is a whole day or more. -/
  | offset (seconds : Int)
  deriving DecidableEq, Repr

/-- Whether a year has a day more: every fourth, of full centuries every fourth. -/
def isLeap (year : Nat) : Bool :=
  year % 4 == 0 && (year % 100 != 0 || year % 400 == 0)

/-- How many days a month has. -/
def daysIn (year month : Nat) : Nat :=
  if month == 2 then if isLeap year then 29 else 28
  else if month == 4 || month == 6 || month == 9 || month == 11 then 30
  else 31

/-- The day with these numbers, if the calendar has it. -/
def make (year month day : Nat) : Except Fault Date :=
  if year < 1 || 9999 < year then .error (.year year)
  else if month < 1 || 12 < month then .error .month
  else if day < 1 || daysIn year month < day then .error .day
  else .ok { year, month, day }

/-- How many days of a year come before a month. -/
def daysBefore (year month : Nat) : Nat :=
  (List.range (month - 1)).foldl (fun days before => days + daysIn year (before + 1)) 0

/-- How many days of the common era come before a day. -/
def dayNumber (d : Date) : Nat :=
  let years := d.year - 1
  years * 365 + years / 4 - years / 100 + years / 400 + daysBefore d.year d.month + (d.day - 1)

/-- A number with zeros before it, up to a width. -/
def padded (width n : Nat) : List Char :=
  let digits := Nat.toDigits 10 n
  List.replicate (width - digits.length) '0' ++ digits

/-- Year, month and day, from the largest to the smallest, between hyphens. -/
def text (d : Date) : List Char :=
  padded 4 d.year ++ '-' :: padded 2 d.month ++ '-' :: padded 2 d.day

/-- The year, month and day that lie a number of days after the first of January 1970. -/
def ofEpochDays (days : Int) : Int × Nat × Nat :=
  -- Counting from the first of March of the year zero puts the leap day at the end of a year.
  let shifted := days + 719468
  let era := shifted.fdiv 146097
  let dayOfEra := (shifted - era * 146097).toNat
  let yearOfEra := (dayOfEra - dayOfEra / 1460 + dayOfEra / 36524 - dayOfEra / 146096) / 365
  let dayOfYear := dayOfEra - (365 * yearOfEra + yearOfEra / 4 - yearOfEra / 100)
  let monthFromMarch := (5 * dayOfYear + 2) / 153
  let day := dayOfYear - (153 * monthFromMarch + 2) / 5 + 1
  let month := if monthFromMarch < 10 then monthFromMarch + 3 else monthFromMarch - 9
  let year := (yearOfEra : Int) + era * 400
  (if month ≤ 2 then year + 1 else year, month, day)

end Date

end KeyCluster

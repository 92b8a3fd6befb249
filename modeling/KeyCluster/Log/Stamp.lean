import KeyCluster.Calendar.Moment
import KeyCluster.Log.Fault
import KeyCluster.Value.Convert

/-! When something was logged, as the lines of a log show it. -/

namespace KeyCluster

/-- A time, in seconds of universal time. -/
inductive Instant where
  | whole (seconds : Int)
  | point (seconds : Float)

/-- A time as it is accepted: it has an integer part, and a double can hold it. -/
def Instant.accept : Instant → Except LogFault Instant
  | whole seconds => match Double.ofInt? seconds with
    | some _ => .ok (whole seconds)
    | none => .error (.uncounted .tooLarge)
  | point seconds => match (Value.float seconds).toInteger with
    | .ok _ => .ok (point seconds)
    | .error fault => .error (.uncounted fault)

namespace Stamp

/-- The integer nearest to a finite double, halves to the even neighbour. -/
def nearest (x : Float) : Int :=
  match Double.view x with
  | .finite negative mantissa exponent =>
    let (num, den) := Double.quotient mantissa exponent
    Double.signed negative (Double.roundQuotient num den)
  | _ => 0

/-- The integer part of a time, toward zero, and what is left of the time. -/
def parts : Instant → Except LogFault (Int × Float)
  | .whole seconds => .ok (seconds, 0)
  | .point seconds => match Double.view seconds with
    | .nan => .error .undefinedTime
    | .infinite _ => .error .farTime
    | .finite negative mantissa exponent =>
      let whole := Double.truncate negative mantissa exponent
      .ok (whole, seconds - Float.ofInt whole)

/-- A second that can be counted and has a year. -/
def second (seconds : Int) : Except LogFault Epoch.Second :=
  if seconds < -Nat.pow 2 63 || Nat.pow 2 63 ≤ seconds then .error .farTime
  else
    let shown := Epoch.second seconds
    -- Years are counted from 1900 in thirty-two bits.
    let year := shown.year - 1900
    if year < -Nat.pow 2 31 || Nat.pow 2 31 ≤ year then .error .farYear
    else .ok shown

/-- A time with its millionths of a second, if there are any, in universal time. -/
def exact (time : Instant) : Except LogFault Text := do
  let (whole, rest) ← parts time
  let micros := nearest (rest * 1000000)
  -- Millionths that are less than none or make up a second are carried over.
  let carry := micros.fdiv 1000000
  let shown ← second (whole + carry)
  if shown.year < 1 || 9999 < shown.year then throw (.calendar (.year shown.year))
  let moment : Moment :=
    { date := { year := shown.year.toNat, month := shown.month, day := shown.day },
      hour := shown.hour, minute := shown.minute, second := shown.second,
      micros := (micros - carry * 1000000).toNat, offset := some 0 }
  return Text.ofChars (moment.text 'T')

/-- A time down to the second that it lies in, in universal time. Lines for readers show the time of the place
where the program runs, so this is what they show where the clock of the place is set to universal time. -/
def plain (time : Instant) : Except LogFault Text := do
  let (whole, rest) ← parts time
  let shown ← second (if rest < 0 then whole - 1 else whole)
  let day := Value.intText shown.year ++ Text.ofChars
    ('-' :: Date.padded 2 shown.month ++ '-' :: Date.padded 2 shown.day)
  return day ++ " " ++ Text.ofChars (Moment.clockText shown.hour shown.minute shown.second 0)

end Stamp

end KeyCluster

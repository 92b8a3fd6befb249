import KeyCluster.Number.Double
import KeyCluster.Text.Blank
import KeyCluster.Text.Digit

/-! Numbers written in text: integers in any base and decimals. -/

namespace KeyCluster.Numeral

/-- Why a text is no integer. -/
inductive Reject where
  | malformed
  | tooLong (digits : Nat)
  deriving DecidableEq, Repr

/-- The most decimal digits of an integer that is read or written. -/
def digitLimit : Nat :=
  4300

/-- Blanks that may surround a number: all but the information separators. -/
def isPadding (c : Char) : Bool :=
  Blank.isAsciiBlank c || Blank.isWideBlank c

/-- A text with the digits of every script written in ASCII. -/
def asciiDigits (text : List Char) : List Char :=
  text.map fun c => match Digit.decimal? c with
    | some n => Digit.hexDigit n
    | none => c

/-- A sign, if there is one, and the text after it. -/
def splitSign : List Char → Bool × List Char
  | '-' :: rest => (true, rest)
  | '+' :: rest => (false, rest)
  | rest => (false, rest)

/-- Digits without their underscores, each of which stands between two digits, and what follows them.
The argument says whether a digit came last. -/
def digitRun (digit : Char → Bool) : (afterDigit : Bool) → List Char → Option (List Char × List Char)
  | afterDigit, [] => if afterDigit then some ([], []) else none
  | afterDigit, c :: rest =>
    if digit c then (digitRun digit true rest).map fun (run, left) => (c :: run, left)
    else if !afterDigit then none
    else if c == '_' then digitRun digit false rest
    else some ([], c :: rest)

/-- The number that digits write in a base. -/
def ofDigits (base : Nat) (digits : List Char) : Nat :=
  digits.foldl (fun n c => n * base + (Digit.value? c).getD 0) 0

/-- Whether a character is a digit of a base. -/
def isDigitOf (base : Nat) (c : Char) : Bool :=
  match Digit.value? c with
  | some n => n < base
  | none => false

/-- The letter that may announce a base after a zero. -/
def baseLetter? (base : Nat) : Option (List Char) :=
  if base == 2 then some ['b', 'B']
  else if base == 8 then some ['o', 'O']
  else if base == 16 then some ['x', 'X']
  else none

/-- A text without the zero and letter that announce its base; an underscore may follow them. -/
def dropBase (base : Nat) : List Char → List Char
  | '0' :: letter :: rest =>
    if ((baseLetter? base).getD []).contains letter then
      match rest with
      | '_' :: digits => digits
      | digits => digits
    else '0' :: letter :: rest
  | text => text

/-- The integer that a text writes in a base. -/
def readInt (base : Nat) (text : Text) : Except Reject Int :=
  let body := Blank.trim isPadding (asciiDigits text.chars)
  let (negative, unsigned) := splitSign body
  match digitRun (isDigitOf base) false (dropBase base unsigned) with
  | none => .error .malformed
  | some (digits, left) =>
    -- Powers of two are read digit by digit, so only other bases limit the length.
    if digitLimit < digits.length && base == 10 then .error (.tooLong digits.length)
    else if !left.isEmpty then .error .malformed
    else .ok (Double.signed negative (ofDigits base digits))

/-- A text without its underscores, if each of them stands between two ASCII digits. -/
def dropUnderscores : (previous : Char) → List Char → Option (List Char)
  | previous, [] => if previous == '_' then none else some []
  | previous, c :: rest =>
    if c == '_' then if previous.isDigit then dropUnderscores c rest else none
    else if previous == '_' && !c.isDigit then none
    else (dropUnderscores c rest).map (c :: ·)

/-- The exponent that ends a decimal, if the text is one or is empty. -/
def exponentPart? : List Char → Option Int
  | [] => some 0
  | c :: rest =>
    if c == 'e' || c == 'E' then
      let (negative, digits) := splitSign rest
      if digits.isEmpty || !digits.all Char.isDigit then none
      else some (Double.signed negative (ofDigits 10 digits))
    else none

/-- The size of a decimal without sign: digits with at most one point, then perhaps an exponent. -/
def readUnsigned? (negative : Bool) (text : List Char) : Option Float :=
  let whole := text.takeWhile Char.isDigit
  let rest := text.dropWhile Char.isDigit
  let (fraction, rest) := match rest with
    | '.' :: more => (more.takeWhile Char.isDigit, more.dropWhile Char.isDigit)
    | _ => ([], rest)
  if whole.isEmpty && fraction.isEmpty then none
  else (exponentPart? rest).map fun exponent =>
    Double.ofDecimal negative (ofDigits 10 (whole ++ fraction)) (exponent - fraction.length)

/-- The double that a text writes: a decimal, an infinity or no number. -/
def readFloat? (text : Text) : Option Float := do
  let body ← dropUnderscores ' ' (Blank.trim isPadding (asciiDigits text.chars))
  let (negative, unsigned) := splitSign body
  let word := String.ofList (unsigned.map Char.toLower)
  if word == "inf" || word == "infinity" then
    return if negative then -1 / 0 else 1 / 0
  else if word == "nan" then
    return 0 / 0
  else readUnsigned? negative unsigned

end KeyCluster.Numeral

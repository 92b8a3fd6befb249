import KeyCluster.Text.Base64
import KeyCluster.Text.Lower
import KeyCluster.Value.Convert
import KeyCluster.Yaml.Node

/-! The values that texts stand for, by their tag. -/

namespace KeyCluster.Yaml.Scalar

/-- A text without underscores. -/
def dropMarks (text : Text) : Text :=
  text.filter (· != .char '_')

/-- A sign, if a number begins with one, and the number after it; a number has at least one character. -/
def splitSign : Text → Except ValueFault (Bool × Text)
  | [] => .error (.noFirst .text)
  | .char '-' :: rest => .ok (true, rest)
  | .char '+' :: rest => .ok (false, rest)
  | rest => .ok (false, rest)

/-- The number that parts make, the last one counting ones, the one before it sixties and so on. -/
def sixtieths (parts : List Int) : Int :=
  parts.foldl (fun total part => total * 60 + part) 0

/-- The integer that characters write in a base. -/
def digits (base : Nat) (text : Text) : Except ValueFault Int :=
  Value.integerOfText base text (Value.text text).literal

/-- The integer of a number without its sign. -/
def size (text : Text) : Except ValueFault Int :=
  match text with
  | [.char '0'] => .ok 0
  | .char '0' :: .char 'b' :: rest => digits 2 rest
  | .char '0' :: .char 'x' :: rest => digits 16 rest
  -- A zero in front tells the base eight, and it is one of the digits.
  | .char '0' :: rest => digits 8 (.char '0' :: rest)
  | [] => .error (.noFirst .text)
  | text =>
    if text.contains (.char ':') then
      ((Blank.pieces (· == .char ':') text).mapM (digits 10)).map sixtieths
    else digits 10 text

/-- The integer that a text stands for. -/
def integer (text : Text) : Except ValueFault Value := do
  let (negative, rest) ← splitSign (dropMarks text)
  let size ← size rest
  return .int (if negative then -size else size)

/-- The double that characters write. -/
def decimal (text : Text) : Except ValueFault Float :=
  match Numeral.readFloat? text with
  | some x => .ok x
  | none => .error (.notDouble (Value.text text).literal)

/-- The sum of a total and parts, the first of which counts for `scale` and each later one for sixty times
as much as the one before it. -/
def sumFrom (total : Float) (scale : Nat) : List Float → Except ValueFault Float
  | [] => .ok total
  | part :: rest => match Double.ofInt? scale with
    | some factor => sumFrom (total + part * factor) (scale * 60) rest
    | none => .error .tooLarge

/-- The number that parts make, the last one counting ones, the one before it sixties and so on. The small
parts are added first. -/
def sexagesimal (parts : List Float) : Except ValueFault Float :=
  sumFrom 0 1 parts.reverse

/-- The double of a number without its sign. -/
def magnitude (text : Text) : Except ValueFault Float :=
  if text == ".inf" then .ok (1 / 0)
  else if text == ".nan" then .ok (0 / 0)
  else if text.contains (.char ':') then (Blank.pieces (· == .char ':') text).mapM decimal >>= sexagesimal
  else decimal text

/-- The double that a text stands for. -/
def double (text : Text) : Except ValueFault Value := do
  let (negative, rest) ← splitSign (Lower.lower (dropMarks text))
  let size ← magnitude rest
  return .float (if negative then -size else size)

/-- The truth value that a text stands for. -/
def truth (text : Text) : Except ValueFault Value :=
  let word := Lower.lower text
  match Tag.truths.find? fun entry => word == entry.1 with
  | some entry => .ok (.bool entry.2)
  | none => .error (.missingKey (.text word))

/-- The day or moment that a text stands for. -/
def moment (text : Text) : Except ValueFault Value :=
  match Timestamp.read? (dropFeed text.chars) with
  | none => .error (.noMember .null "groupdict")
  | some stamp => match stamp.toValue with
    | .ok value => .ok value
    | .error fault => .error (.calendar fault)

/-- The bytes that a text stands for. -/
def binary (text : Text) : Except Fault Value :=
  if !text.all fun c => c.number < 0x80 then .error (.malformed .base64)
  else match Base64.decode? text.chars with
    | some data => .ok (.bytes data)
    | none => .error (.malformed .base64)

/-- Whether a tag is one of texts. -/
def isScalarTag : Tag → Bool
  | .null | .bool | .int | .float | .string | .binary | .timestamp => true
  | _ => false

/-- The value of a text under a tag. -/
def build (tag : Tag) (text : Text) : Except Fault Value :=
  match tag with
  | .null => .ok .null
  | .bool => (truth text).mapError .value
  | .int => (integer text).mapError .value
  | .float => (double text).mapError .value
  | .string => .ok (.text text)
  | .binary => binary text
  | .timestamp => (moment text).mapError .value
  | _ => .error (.malformed .unknownTag)

/-- Whether a text under the tag of doubles is the word for no number, which is one value wherever it
stands. -/
def isCommonNan (text : Text) : Bool :=
  match splitSign (Lower.lower (dropMarks text)) with
  | .ok (_, rest) => rest == ".nan"
  | .error _ => false

end KeyCluster.Yaml.Scalar

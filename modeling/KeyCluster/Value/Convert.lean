import KeyCluster.Number.Numeral
import KeyCluster.Value.Fault

/-! Using values as something definite: integers, sequences, texts, spans of time. -/

namespace KeyCluster.Value

/-- The integer that a text writes; `literal` is how a message quotes the text. -/
def integerOfText (base : Nat) (text literal : Text) : Except ValueFault Int :=
  match Numeral.readInt base text with
  | .ok i => .ok i
  | .error .malformed => .error (.notInteger base literal)
  | .error (.tooLong digits) => .error (.tooManyDigits digits)

/-- The text of bytes, with a sign that no number contains for what is not ASCII. -/
def asciiText (data : List UInt8) : Text :=
  data.map fun byte => .char (if byte < 0x80 then Char.ofNat byte.toNat else '?')

/-- The integer that a value is, writes, or has as its integer part. -/
def toInteger : Value → Except ValueFault Int
  | bool b => .ok (if b then 1 else 0)
  | int i => .ok i
  | float x => match Double.view x with
    | .nan => .error .undefinedInteger
    | .infinite _ => .error .infiniteInteger
    | .finite negative mantissa exponent => .ok (Double.truncate negative mantissa exponent)
  | text s => integerOfText 10 s (text s).literal
  | bytes data => integerOfText 10 (asciiText data) (bytes data).literal
  | v => .error (.notIntegerLike v.kind)

/-- A value in a written form, as long as every integer in it can be written. -/
def write (form : Value → Text) (v : Value) : Except ValueFault Text :=
  if v.isWritable then .ok (form v) else .error .tooLongToWrite

/-- The parts of a value in order: items, characters, bytes or keys. -/
def parts : Value → Except ValueFault (List Value)
  | list items | tuple items | set items => .ok items
  | text s => .ok (s.map fun c => text [c])
  | bytes data => .ok (data.map fun byte => int byte.toNat)
  | map entries => .ok (entries.map (·.1))
  | v => .error (.notIterable v.kind)

/-- How many parts a value has. -/
def size (v : Value) : Except ValueFault Nat :=
  match v.parts with
  | .ok items => .ok items.length
  | .error _ => .error (.notSized v.kind)

/-- What stands in the first place of a sequence; for a mapping, under the key zero. -/
def first (v : Value) : Except ValueFault Value :=
  match v with
  -- A mapping has no order in which something comes first.
  | map entries => match entries.find? fun entry => isSameKey entry.1 (int 0) with
    | some entry => .ok entry.2
    | none => .error (.missingKey (int 0))
  | set _ => .error (.notIndexed .set)
  | v => match v.parts with
    | .error _ => .error (.notIndexed v.kind)
    | .ok [] => .error (.noFirst v.kind)
    | .ok (item :: _) => .ok item

/-- The text under which a value names a file. -/
def toPath : Value → Except ValueFault Text
  | text s => .ok s
  | bytes _ => .error .bytePath
  | v => .error (.notPath v.kind)

/-- The span that a value is, in seconds; no value means no span. -/
def toDuration : Value → Except ValueFault (Option Float)
  | null => .ok none
  | float x => .ok (some x)
  -- A span is added to the time, so it has to be a number that a double can show.
  | v => match v.integer? with
    | none => .error (.noSum .float v.kind)
    | some i => match Double.ofInt? i with
      | some x => .ok (some x)
      | none => .error .tooLarge

/-- Whether a value is a number. -/
def isNumber : Value → Bool
  | bool _ | int _ | float _ => true
  | _ => false

/-- Whether a span is less than the one that a value is. -/
def exceeds (x : Float) (v : Value) : Except ValueFault Bool :=
  if v.isNumber then .ok (compareNumbers (float x) v == some .lt)
  else .error (.unordered .float v.kind)

end KeyCluster.Value

import KeyCluster.Number.Decimal
import KeyCluster.Template.Directive
import KeyCluster.Template.Fault
import KeyCluster.Value.Convert

/-! What becomes of a value in the place of a directive. -/

namespace KeyCluster.Directive

/-- How a value is laid out: flags, the least number of characters, and a precision if there is one. -/
structure Shape where
  flags : Flags
  width : Nat
  precision : Option Nat

namespace Shape

/-- A text with what leads it in its width. Zeros stand between the two, blanks around both. -/
def fill (shape : Shape) (zeros : Bool) (lead body : Text) : Text :=
  let gap := shape.width - (lead.length + body.length)
  if shape.flags.left then lead ++ body ++ List.replicate gap (.char ' ')
  else if zeros then lead ++ List.replicate gap (.char '0') ++ body
  else List.replicate gap (.char ' ') ++ lead ++ body

/-- What stands in the place of the sign of a number. -/
def sign (shape : Shape) (negative : Bool) : List Char :=
  if negative then ['-'] else if shape.flags.plus then ['+'] else if shape.flags.blank then [' '] else []

/-- A number, given by its sign, the mark of its base and its digits. -/
def number (shape : Shape) (negative : Bool) (mark digits : List Char) : Text :=
  shape.fill shape.flags.zero (Text.ofChars (shape.sign negative ++ mark)) (Text.ofChars digits)

/-- A text, cut to the precision. -/
def text (shape : Shape) (s : Text) : Text :=
  shape.fill false [] (match shape.precision with
    | some most => s.take most
    | none => s)

/-- The largest least number of digits of an integer. -/
def digitsLimit : Nat :=
  Nat.pow 2 31 - 4

/-- An integer in a base, with the letter that marks it; the precision is the least number of digits. -/
def integer (shape : Shape) (base : Nat) (mark : Option Char) (i : Int) : Except TemplateFault Text :=
  if digitsLimit < shape.precision.getD 0 then .error .largePrecision else
  -- The decimal digits of an integer are limited like those of one that is written anywhere else.
  if base == 10 && !(Value.int i).isWritable then .error (.value .tooLongToWrite) else
  let digits := Nat.toDigits base i.natAbs
  let padded := List.replicate (shape.precision.getD 0 - digits.length) '0' ++ digits
  let shown := match mark with
    | some letter => if shape.flags.alternate then ['0', letter] else []
    | none => []
  .ok (shape.number (i < 0) shown padded)

/-- A double; `write` lays out its size with a wanted point and a number of digits, six by default. -/
def double (shape : Shape) (write : Bool → Nat → Nat → Int → List Char) (x : Float) : Text :=
  match Double.view x with
  | .nan => shape.number false [] ['n', 'a', 'n']
  | .infinite negative => shape.number negative [] ['i', 'n', 'f']
  | .finite negative mantissa exponent =>
    shape.number negative []
      (write shape.flags.alternate (shape.precision.getD 6) mantissa exponent)

end Shape

/-- The integer part of a number. -/
def integerPart (letter : Char) (v : Value) : Except TemplateFault Int :=
  if v.isNumber then
    match v.toInteger with
    | .ok i => .ok i
    | .error fault => .error (.value fault)
  else .error (.notReal letter v.kind)

/-- The integer that a value is. -/
def wholeNumber (letter : Char) (v : Value) : Except TemplateFault Int :=
  match v.integer? with
  | some i => .ok i
  | none => .error (.notInteger letter v.kind)

/-- The double that a number is. -/
def doubleOf (v : Value) : Except TemplateFault Float :=
  match v with
  | .float x => .ok x
  | v => match v.integer? with
    | none => .error (.notNumber v.kind)
    | some i => match Double.ofInt? i with
      | some x => .ok x
      | none => .error (.value .tooLarge)

/-- The character that a value is, or is the number of. -/
def character (v : Value) : Except TemplateFault CodePoint :=
  match v with
  | .text [c] => .ok c
  | .text _ => .error .notCharacter
  | v => match v.integer? with
    | none => .error .notCharacter
    | some i => if 0 ≤ i && i < 0x110000 then .ok (.ofNumber i.toNat) else .error .noCharacter

/-- Letters in upper case, others as they are. -/
def capitals (text : Text) : Text :=
  text.map fun
    | .char c => .char c.toUpper
    | c => c

/-- A value in a written form, as long as every integer in it can be written. -/
def written (form : Value → Text) (v : Value) : Except TemplateFault Text :=
  (v.write form).mapError .value

/-- The text of a value under the conversion with a letter; `place` is where the letter stands. -/
def convert (shape : Shape) (letter : CodePoint) (place : Nat) (v : Value) : Except TemplateFault Text :=
  match letter with
  -- The first three show the value itself, in one of its written forms.
  | .char 's' => (written Value.plain v).map shape.text
  | .char 'r' => (written Value.literal v).map shape.text
  | .char 'a' => (written (Value.literalWith Quoted.isPlainAscii) v).map shape.text
  -- These three are the same conversion.
  | .char 'd' => integerPart 'd' v >>= shape.integer 10 none
  | .char 'i' => integerPart 'i' v >>= shape.integer 10 none
  | .char 'u' => integerPart 'u' v >>= shape.integer 10 none
  -- In these bases the integer part of a number will not do.
  | .char 'o' => wholeNumber 'o' v >>= shape.integer 8 (some 'o')
  | .char 'x' => wholeNumber 'x' v >>= shape.integer 16 (some 'x')
  | .char 'X' => (wholeNumber 'X' v >>= shape.integer 16 (some 'x')).map capitals
  | .char 'e' => (doubleOf v).map (shape.double Decimal.scientificText)
  | .char 'E' => (doubleOf v).map fun x => capitals (shape.double Decimal.scientificText x)
  | .char 'f' => (doubleOf v).map (shape.double Decimal.fixedText)
  | .char 'F' => (doubleOf v).map fun x => capitals (shape.double Decimal.fixedText x)
  | .char 'g' => (doubleOf v).map (shape.double Decimal.generalText)
  | .char 'G' => (doubleOf v).map fun x => capitals (shape.double Decimal.generalText x)
  | .char 'c' => (character v).map fun c => shape.fill false [] [c]
  | _ => .error (.unsupported letter place)

end KeyCluster.Directive

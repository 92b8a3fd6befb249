import KeyCluster.Failure.Kind
import KeyCluster.Value.Text

/-! What goes wrong when a value is used as something that it is not. -/

namespace KeyCluster

/-- Why an operation on a value fails; a kind tells the shape of the value that it fails on. -/
inductive ValueFault where
  | noMember (kind : Value.Kind) (name : Text)
  | notIterable (kind : Value.Kind)
  | notSized (kind : Value.Kind)
  | notIndexed (kind : Value.Kind)
  | noFirst (kind : Value.Kind)
  /-- A value of this shape cannot name an entry of an object. -/
  | noEntryName (kind : Value.Kind)
  | missingKey (key : Value)
  | notInteger (base : Nat) (literal : Text)
  | tooManyDigits (digits : Nat)
  | tooLongToWrite
  | tooDeepToWrite
  | circular
  /-- A pattern is looked for in a value of this shape. -/
  | notSearchable (kind : Value.Kind)
  | notIntegerLike (kind : Value.Kind)
  | undefinedInteger
  | infiniteInteger
  /-- An integer lies beyond the doubles. -/
  | tooLarge
  | unordered (left right : Value.Kind)
  | noSum (left right : Value.Kind)
  | notPath (kind : Value.Kind)
  /-- Bytes name no file here. -/
  | bytePath
  /-- Bytes do not begin with a text. -/
  | bytePrefix
  | notDouble (literal : Text)
  /-- Numbers are no date or time. -/
  | calendar (fault : Date.Fault)
  | noCharacter
  | hugeCharacter

namespace ValueFault

/-- The kind of failure that a fault is. -/
def kind : ValueFault → FailureKind
  | noMember _ _ => .noMember
  | notIterable _ | notSized _ | notIndexed _ | notIntegerLike _ | unordered _ _ | noSum _ _
  | noEntryName _ | notPath _ | bytePath | bytePrefix | notSearchable _ => .wrongShape
  | noFirst _ => .missingPlace
  | missingKey _ => .missingKey
  | notInteger _ _ | tooManyDigits _ | tooLongToWrite | undefinedInteger | notDouble _ | calendar _
  | noCharacter | circular => .badValue
  | infiniteInteger | tooLarge | hugeCharacter => .overflow
  | tooDeepToWrite => .tooDeep

/-- What a message says about numbers that are no date or time. -/
def calendarMessage : Date.Fault → Text
  | .year year => "year " ++ Value.intText year ++ " is out of range"
  | .month => "month must be in 1..12"
  | .day => "day is out of range for month"
  | .hour => "hour must be in 0..23"
  | .minute => "minute must be in 0..59"
  | .second => "second must be in 0..59"
  | .offset seconds => "offset must be a timedelta strictly between -timedelta(hours=24) and "
      ++ "timedelta(hours=24), not " ++ Value.spanLiteral seconds ++ "."

/-- The words for a sequence in a message about its places; bytes are not named there. -/
def sequenceName : Value.Kind → Text
  | .text => "string "
  | .bytes => ""
  | kind => kind.name ++ " "

/-- What a message says about a fault. -/
def message : ValueFault → Text
  | noMember kind name => "'" ++ kind.name ++ "' object has no attribute '" ++ name ++ "'"
  | notIterable kind => "'" ++ kind.name ++ "' object is not iterable"
  | notSized kind => "object of type '" ++ kind.name ++ "' has no len()"
  | notIndexed kind => "'" ++ kind.name ++ "' object is not subscriptable"
  | noEntryName kind => "keys must be str, int, float, bool or None, not " ++ kind.name
  | noFirst kind => sequenceName kind ++ "index out of range"
  | missingKey key => key.literal
  -- Long literals are cut, so that a message stays readable.
  | notInteger base literal => "invalid literal for int() with base " ++ Value.intText base ++ ": "
      ++ literal.take 200
  | tooManyDigits digits => "Exceeds the limit (4300 digits) for integer string conversion: value has "
      ++ Value.intText digits
      ++ " digits; use sys.set_int_max_str_digits() to increase the limit"
  | tooLongToWrite => "Exceeds the limit (4300 digits) for integer string conversion; "
      ++ "use sys.set_int_max_str_digits() to increase the limit"
  | tooDeepToWrite => "maximum recursion depth exceeded while encoding a JSON object"
  | circular => "Circular reference detected"
  | notSearchable kind => "expected string or bytes-like object, got '" ++ kind.name ++ "'"
  | notIntegerLike kind =>
    "int() argument must be a string, a bytes-like object or a real number, not '" ++ kind.name ++ "'"
  | undefinedInteger => "cannot convert float NaN to integer"
  | infiniteInteger => "cannot convert float infinity to integer"
  | tooLarge => "int too large to convert to float"
  | unordered left right =>
    "'<' not supported between instances of '" ++ left.name ++ "' and '" ++ right.name ++ "'"
  | noSum left right =>
    "unsupported operand type(s) for +: '" ++ left.name ++ "' and '" ++ right.name ++ "'"
  | notPath kind => "expected str, bytes or os.PathLike object, not " ++ kind.name
  | bytePath =>
    "argument should be a str object or an os.PathLike object returning str, not <class 'bytes'>"
  | bytePrefix => "startswith first arg must be bytes or a tuple of bytes, not str"
  | notDouble literal => "could not convert string to float: " ++ literal
  | calendar fault => calendarMessage fault
  | noCharacter => "chr() arg not in range(0x110000)"
  | hugeCharacter => "Python int too large to convert to C int"

end ValueFault

end KeyCluster

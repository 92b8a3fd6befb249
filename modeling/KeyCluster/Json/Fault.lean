import KeyCluster.Value.Fault

/-! Why a text is not JSON, and where. -/

namespace KeyCluster.Json

/-- What is wrong at some place of a text. -/
inductive Flaw where
  | value
  | extra
  | name
  | colon
  | comma
  | unterminated
  | control
  | escape
  | unicode
  | byteOrderMark
  deriving DecidableEq, Repr

/-- What a message says about a flaw. -/
def Flaw.message : Flaw → Text
  | value => "Expecting value"
  | extra => "Extra data"
  | name => "Expecting property name enclosed in double quotes"
  | colon => "Expecting ':' delimiter"
  | comma => "Expecting ',' delimiter"
  | unterminated => "Unterminated string starting at"
  | control => "Invalid control character at"
  | escape => "Invalid \\escape"
  | unicode => "Invalid \\uXXXX escape"
  | byteOrderMark => "Unexpected UTF-8 BOM (decode using utf-8-sig)"

/-- How many values may stand inside each other. Reading and writing JSON have no limit of their own: this one is
that of the interpreter that runs the program (release 3.11), which has room for a thousand nested calls by
default, some of which are under way already. -/
def depthLimit : Nat :=
  988

/-- What can hold other values. -/
inductive Container where
  | array
  | object
  deriving DecidableEq, Repr

/-- The name of what can hold other values. -/
def Container.name : Container → Text
  | array => "array"
  | object => "object"

/-- Where reading stops, told by how many characters are left. -/
inductive Stop where
  /-- A flaw before the last `left` characters. -/
  | flaw (flaw : Flaw) (left : Nat)
  | tooManyDigits (digits : Nat)
  | tooDeep (container : Container)
  deriving DecidableEq, Repr

/-- Why a text is not JSON. -/
inductive Fault where
  /-- A flaw at a place: its line and column from one, and its offset from zero. -/
  | flaw (flaw : Flaw) (line column offset : Nat)
  | tooManyDigits (digits : Nat)
  | tooDeep (container : Container)
  deriving DecidableEq, Repr

/-- The flaw after the first `offset` characters of a text. -/
def Fault.at (flaw : Flaw) (text : List Char) (offset : Nat) : Fault :=
  let before := text.take offset
  let line := before.count '\n'
  let column := (before.reverse.takeWhile (· != '\n')).length
  .flaw flaw (line + 1) (column + 1) offset

/-- The fault that stops the reading of a text. -/
def Stop.toFault (text : List Char) : Stop → Fault
  | flaw f left => Fault.at f text (text.length - left)
  | tooManyDigits digits => .tooManyDigits digits
  | tooDeep container => .tooDeep container

/-- What a message says about values that are nested too deeply. -/
def Container.depthMessage (container : Container) : Text :=
  "maximum recursion depth exceeded while decoding a JSON " ++ container.name
    ++ " from a unicode string"

/-- What a message says about a fault. -/
def Fault.message : Fault → Text
  | flaw f line column offset => f.message ++ ": line " ++ Value.intText line ++ " column "
      ++ Value.intText column ++ " (char " ++ Value.intText offset ++ ")"
  | tooManyDigits digits => (ValueFault.tooManyDigits digits).message
  | tooDeep container => container.depthMessage

end KeyCluster.Json

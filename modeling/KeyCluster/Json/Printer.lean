import KeyCluster.Json.Fault
import KeyCluster.Value.Convert

/-! Writing JSON in ASCII. What JSON has no form for is written as its plain text. -/

namespace KeyCluster.Json

/-- Doubles are written as in plain texts, but for the words of JSON's readers. -/
def floatLayout : Shortest.Layout :=
  { Value.floatLayout with nan := "NaN", infinity := "Infinity" }

/-- The escape of one code unit. -/
def unitText (unit : Nat) : List Char :=
  '\\' :: 'u' :: Digit.hexText 4 unit

/-- One character inside a text: printable ASCII as itself, the rest escaped, beyond the first plane as a
pair of code units. -/
def charText (c : Char) : List Char :=
  if c == '"' then ['\\', '"']
  else if c == '\\' then ['\\', '\\']
  else if c == '\n' then ['\\', 'n']
  else if c == '\r' then ['\\', 'r']
  else if c == '\t' then ['\\', 't']
  else if c == '\x0c' then ['\\', 'f']
  else if c == '\x08' then ['\\', 'b']
  -- From here on the order of the tests is that of the code points.
  else if 0x20 ≤ c.toNat && c.toNat < 0x7F then [c]
  else if c.toNat < 0x10000 then unitText c.toNat
  else
    let above := c.toNat - 0x10000
    unitText (0xD800 + above / 0x400) ++ unitText (0xDC00 + above % 0x400)

/-- One code point inside a text; a surrogate that stands alone is a code unit of its own. -/
def pointText : CodePoint → List Char
  | .char c => charText c
  | .surrogate s => unitText (CodePoint.surrogate s).number

/-- A text between double quotes. -/
def textForm (s : Text) : Text :=
  Text.ofChars ('"' :: s.flatMap pointText ++ ['"'])

/-- The name of an entry. Absent values, truth values and numbers are named by their own form; values of
other shapes name nothing. -/
def nameForm : Value → Except ValueFault Text
  | .text s => .ok s
  | .null => .ok "null"
  | .bool b => .ok (if b then "true" else "false")
  | .int i => (Value.int i).write Value.plain
  | .float x => .ok (Shortest.text floatLayout x)
  | v => .error (.noEntryName v.kind)

/-- Forms between two brackets. -/
def enclosed (opening closing : Text) (forms : List Text) : Text :=
  opening ++ List.intercalate ", " forms ++ closing

/-- The room inside one more value that holds others. -/
def within : (room : Nat) → Except ValueFault Nat
  | 0 => .error .tooDeepToWrite
  | room + 1 => .ok room

mutual

/-- A value as JSON, unless an entry cannot be named, a number cannot be written, a value stands inside
itself, or more values stand inside each other than there is room for. -/
def formWithin : Value → (room : Nat) → Except ValueFault Text
  | .null, _ => .ok "null"
  | .bool b, _ => .ok (if b then "true" else "false")
  | .int i, _ => (Value.int i).write Value.plain
  | .float x, _ => .ok (Shortest.text floatLayout x)
  | .text s, _ => .ok (textForm s)
  | .list items, room | .tuple items, room => do
    -- The room is taken before the items are looked at.
    let room ← within room
    return enclosed "[" "]" (← formsWithin items room)
  | .map entries, room => do
    let room ← within room
    return enclosed "\x7b" "\x7d" (← entryFormsWithin entries room)
  | .again _, _ => .error .circular
  | v, room => do
    -- Other values are shown as texts.
    let shown ← v.write Value.plain
    -- Such a text is a value of its own one level further in, though it holds no others.
    discard (within room)
    return textForm shown

/-- The items of a list as JSON. -/
def formsWithin : List Value → (room : Nat) → Except ValueFault (List Text)
  | [], _ => .ok []
  | item :: rest, room => do
    let here ← formWithin item room
    return here :: (← formsWithin rest room)

/-- The entries of an object as JSON. -/
def entryFormsWithin : List (Value × Value) → (room : Nat) → Except ValueFault (List Text)
  | [], _ => .ok []
  | (key, value) :: rest, room => do
    let name ← nameForm key
    let here ← formWithin value room
    return (textForm name ++ ": " ++ here) :: (← entryFormsWithin rest room)

end

/-- A value as JSON. -/
def form (v : Value) : Except ValueFault Text :=
  formWithin v depthLimit

end KeyCluster.Json

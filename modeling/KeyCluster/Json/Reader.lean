import KeyCluster.Json.Fault
import KeyCluster.Number.Numeral

/-! Reading JSON: each part is read together with the characters after it. The undefined number and the
infinities are read too, and of two entries of an object under one name the last one decides. -/

namespace KeyCluster.Json

/-- The blanks between the parts of a document. -/
def isBlank (c : Char) : Bool :=
  c == ' ' || c == '\t' || c == '\n' || c == '\r'

/-- A text from its first character that is not blank. -/
def skipBlank (text : List Char) : List Char :=
  text.dropWhile isBlank

/-- The code unit of four hexadecimal digits. Something has to follow them, as no text ends there. -/
def unit? : List Char → Option (Nat × List Char)
  | a :: b :: c :: d :: e :: rest => (Digit.hexNumber? [a, b, c, d]).map (·, e :: rest)
  | _ => none

/-- The character that a short escape stands for. -/
def short? : Char → Option Char
  | '"' => some '"'
  | '\\' => some '\\'
  | '/' => some '/'
  | 'b' => some '\x08'
  | 'f' => some '\x0c'
  | 'n' => some '\n'
  | 'r' => some '\r'
  | 't' => some '\t'
  | _ => none

/-- Whether a code unit is the first half of a pair. -/
def isHigh (unit : Nat) : Bool :=
  0xD800 ≤ unit && unit < 0xDC00

/-- Whether a code unit is the second half of a pair. -/
def isLow (unit : Nat) : Bool :=
  0xDC00 ≤ unit && unit < 0xE000

/-- The code point of a pair of code units. -/
def ofPair (high low : Nat) : CodePoint :=
  .ofNumber (0x10000 + (high - 0xD800) * 0x400 + (low - 0xDC00))

/-- The code point of an escape by number, after its `u`, and what follows it. Half a pair may stand
alone. -/
def escaped (text : List Char) : Except Stop (CodePoint × List Char) :=
  match unit? text with
  | none => .error (.flaw .unicode (text.length + 1))
  | some (unit, rest) =>
    if !isHigh unit then .ok (.ofNumber unit, rest)
    -- Half a pair waits for the other one.
    else match rest with
      | '\\' :: 'u' :: more =>
        -- Only the second half of a pair belongs to the first; any other escape stands for itself.
        if more.length < 5 then .ok (.ofNumber unit, rest)
        else match unit? more with
          | none => .error (.flaw .unicode (more.length + 1))
          | some (next, after) =>
            if isLow next then .ok (ofPair unit next, after) else .ok (.ofNumber unit, rest)
      | _ => .ok (.ofNumber unit, rest)

/-- The rest of a text value after its opening quote; `opening` counts the characters from that quote
on. Every step reads at least one character, so `fuel` may be their number. -/
def textFrom (opening : Nat) : (fuel : Nat) → List Char → Except Stop (Text × List Char)
  | 0, _ => .error (.flaw .unterminated opening)
  | _ + 1, [] => .error (.flaw .unterminated opening)
  | fuel + 1, c :: rest =>
    if c == '"' then .ok ([], rest)
    -- The quote ends the text, and an escape takes one character more at least.
    else if c == '\\' then
      match rest with
      | [] => .error (.flaw .unterminated opening)
      | 'u' :: more => do
        let (point, rest) ← escaped more
        let (tail, rest) ← textFrom opening fuel rest
        return (point :: tail, rest)
      | e :: more =>
        match short? e with
        | none => .error (.flaw .escape (rest.length + 1))
        | some char => do
          let (tail, rest) ← textFrom opening fuel more
          return (.char char :: tail, rest)
    else if c.toNat < 0x20 then .error (.flaw .control (rest.length + 1))
    else do
      let (tail, rest) ← textFrom opening fuel rest
      return (.char c :: tail, rest)

/-- A text value after its opening quote. -/
def readText (rest : List Char) : Except Stop (Text × List Char) :=
  textFrom (rest.length + 1) (rest.length + 1) rest

/-- The digits before a point: a zero alone, or digits that do not begin with one. -/
def wholeDigits : List Char → List Char
  | '0' :: _ => ['0']
  | text => text.takeWhile Char.isDigit

/-- A point with the digits after it, if there are any. -/
def fractionPart : List Char → List Char
  | '.' :: rest => match rest.takeWhile Char.isDigit with
    | [] => []
    | digits => '.' :: digits
  | _ => []

/-- A sign alone, if there is one. -/
def signPart : List Char → List Char
  | '+' :: _ => ['+']
  | '-' :: _ => ['-']
  | _ => []

/-- An exponent with its digits, if there are any. -/
def exponentPart : List Char → List Char
  | c :: rest =>
    if c == 'e' || c == 'E' then
      let sign := signPart rest
      match (rest.drop sign.length).takeWhile Char.isDigit with
      | [] => []
      | digits => c :: sign ++ digits
    else []
  | [] => []

/-- A number: an integer while neither fraction nor exponent follows its digits. -/
def readNumber (text : List Char) : Except Stop (Value × List Char) :=
  let (negative, body) := match text with
    | '-' :: body => (true, body)
    | body => (false, body)
  -- Only the first of the three parts has to be there.
  let whole := wholeDigits body
  let fraction := fractionPart (body.drop whole.length)
  let exponent := exponentPart (body.drop (whole.length + fraction.length))
  let rest := body.drop (whole.length + fraction.length + exponent.length)
  if whole.isEmpty then .error (.flaw .value text.length)
  else if fraction.isEmpty && exponent.isEmpty then
    -- Digits are only counted where they make an integer.
    if Numeral.digitLimit < whole.length then .error (.tooManyDigits whole.length)
    else .ok (.int (Double.signed negative (Numeral.ofDigits 10 whole)), rest)
  else match Numeral.readUnsigned? negative (whole ++ fraction ++ exponent) with
    | some x => .ok (.float x, rest)
    | none => .error (.flaw .value text.length)

/-- The words that are values. -/
def words : List (List Char × Value) :=
  [("null".toList, .null), ("true".toList, .bool true), ("false".toList, .bool false),
    ("NaN".toList, .float (0 / 0)), ("Infinity".toList, .float (1 / 0)),
    ("-Infinity".toList, .float (-1 / 0))]

/-- The word that a text begins with, if it is a value. -/
def readWord? (text : List Char) : Option (Value × List Char) :=
  (words.find? fun word => word.1.isPrefixOf text).map fun word => (word.2, text.drop word.1.length)

/-- The room inside one more value that holds others. -/
def inside (container : Container) : (room : Nat) → Except Stop Nat
  | 0 => .error (.tooDeep container)
  | room + 1 => .ok room

mutual

/-- A value that begins with the first character; `room` says how many values may stand inside each other
in it. Of two calls inside each other at least one reads a character, so `fuel` may be twice their
number. -/
def readValue : (fuel room : Nat) → List Char → Except Stop (Value × List Char)
  | 0, _, text => .error (.flaw .value text.length)
  | fuel + 1, room, text =>
    match text with
    | '"' :: rest => do
      let (s, rest) ← readText rest
      return (.text s, rest)
    | '[' :: rest => do
      let room ← inside .array room
      match skipBlank rest with
      | ']' :: rest => return (.list [], rest)
      | rest =>
        let (items, rest) ← readItems fuel room rest
        return (.list items, rest)
    | '\x7b' :: rest => do
      let room ← inside .object room
      match skipBlank rest with
      | '\x7d' :: rest => return (.map [], rest)
      | rest =>
        let (entries, rest) ← readEntries fuel room rest
        return (.map (Value.mapping entries), rest)
    | text =>
      -- A word is tried before a number, for the name of the infinite one below zero begins like it.
      match readWord? text with
      | some found => .ok found
      | none => readNumber text

/-- The items of a list from the first one on, and its closing bracket. -/
def readItems : (fuel room : Nat) → List Char → Except Stop (List Value × List Char)
  | 0, _, text => .error (.flaw .value text.length)
  | fuel + 1, room, text => do
    let (item, rest) ← readValue fuel room text
    match skipBlank rest with
    | ']' :: rest => return ([item], rest)
    | ',' :: rest =>
      let (items, rest) ← readItems fuel room (skipBlank rest)
      return (item :: items, rest)
    | rest => throw (.flaw .comma rest.length)

/-- The entries of an object from the first one on, and its closing brace. -/
def readEntries : (fuel room : Nat) → List Char → Except Stop (List (Value × Value) × List Char)
  | 0, _, text => .error (.flaw .name text.length)
  | fuel + 1, room, text =>
    match text with
    | '"' :: rest => do
      let (name, rest) ← readText rest
      match skipBlank rest with
      | ':' :: rest =>
        let (value, rest) ← readValue fuel room (skipBlank rest)
        match skipBlank rest with
        | '\x7d' :: rest => return ([(.text name, value)], rest)
        | ',' :: rest =>
          let (entries, rest) ← readEntries fuel room (skipBlank rest)
          return ((.text name, value) :: entries, rest)
        | rest => throw (.flaw .comma rest.length)
      | rest => throw (.flaw .colon rest.length)
    | text => .error (.flaw .name text.length)

end

/-- A whole document: one value between blanks. -/
def readDocument (text : List Char) : Except Stop Value := do
  if text.head? == some '\uFEFF' then throw (.flaw .byteOrderMark text.length)
  let (value, rest) ← readValue (2 * text.length + 2) depthLimit (skipBlank text)
  match skipBlank rest with
  | [] => return value
  | rest => throw (.flaw .extra rest.length)

/-- The value that a text holds as JSON. -/
def read (text : List Char) : Except Fault Value :=
  match readDocument text with
  | .ok value => .ok value
  | .error stop => .error (stop.toFault text)

end KeyCluster.Json

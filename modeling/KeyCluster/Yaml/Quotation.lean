import KeyCluster.Text.Digit
import KeyCluster.Yaml.Fault
import KeyCluster.Yaml.Plain

/-! Texts between quotes. Single quotes know no escapes but their own doubling. -/

namespace KeyCluster.Yaml.Quotation

/-- The character that a short escape stands for. -/
def short? : Char → Option Char
  | '0' => some '\x00'
  | 'a' => some '\x07'
  | 'b' => some '\x08'
  | 't' => some '\t'
  | '\t' => some '\t'
  | 'n' => some '\n'
  | 'v' => some '\x0b'
  | 'f' => some '\x0c'
  | 'r' => some '\r'
  | 'e' => some '\x1b'
  | ' ' => some ' '
  | '"' => some '"'
  | '\\' => some '\\'
  | '/' => some '/'
  | 'N' => some '\x85'
  | '_' => some '\xa0'
  | 'L' => some '\u2028'
  | 'P' => some '\u2029'
  | _ => none

/-- How many hexadecimal digits follow the letter of a numeric escape. -/
def digits? : Char → Option Nat
  | 'x' => some 2
  | 'u' => some 4
  | 'U' => some 8
  | _ => none

/-- The code point of a number. Halves of a pair stay halves, also where both are there. -/
def point (code : Nat) : Except Fault CodePoint :=
  if 0x7FFFFFFF < code then .error (.value .hugeCharacter)
  else if 0x10FFFF < code then .error (.value .noCharacter)
  else .ok (.ofNumber code)

/-- The code point of the hexadecimal digits that a text begins with. -/
def numeric (count : Nat) (text : List Char) : Except Fault CodePoint :=
  if text.length < count then .error (.malformed .escape)
  else match Digit.hexNumber? (text.take count) with
    | some code => point code
    | none => .error (.malformed .escape)

/-- The blank lines from here on as their breaks, and the place after them and the blanks that follow. -/
def blankLines : (fuel : Nat) → Cursor → Except Fault (List Char × Cursor)
  | 0, _ => .error (.malformed .unterminated)
  | fuel + 1, cursor =>
    if startsSeparator cursor.rest then .error (.malformed .unterminated)
    else
      let indented := cursor.skip fun c => c == ' ' || c == '\t'
      match indented.lineBreak? with
      | none => .ok ([], indented)
      | some (c, after) => do
        let (more, stop) ← blankLines fuel after
        return (c :: more, stop)

/-- Blanks and line breaks from here on, as the quoted text shows them. -/
def gap (cursor : Cursor) : Except Fault (Text × Cursor) := do
  let (blanks, after) := cursor.span fun c => c == ' ' || c == '\t'
  match after.lineBreak? with
  | none => return (Text.ofChars blanks, after)
  | some (first, after) =>
    let (more, stop) ← blankLines (after.rest.length + 1) after
    return (Text.ofChars (Plain.fold first more), stop)

/-- What an escape stands for, and the place after it; `cursor` is at its second character. -/
def escape (cursor : Cursor) : Except Fault (Text × Cursor) :=
  match cursor.rest with
  | [] => .error (.malformed .escape)
  | c :: rest =>
    match short? c, digits? c with
    | some c, _ => .ok ([.char c], cursor.next)
    | none, some count => do
      return ([← numeric count rest], cursor.forward (count + 1))
    | none, none =>
      -- The end of a line is left out, with the blanks around it.
      if isBreak c then do
        let after := cursor.skipBreak
        let (breaks, stop) ← blankLines (after.rest.length + 1) after
        return (Text.ofChars breaks, stop)
      else .error (.malformed .escape)

/-- A quoted text from here to its closing quote, and the place after that. -/
def readFrom (quote : Char) : (fuel : Nat) → Cursor → Except Fault (Text × Cursor)
  | 0, _ => .error (.malformed .unterminated)
  | fuel + 1, cursor =>
    match cursor.rest with
    | [] => .error (.malformed .unterminated)
    | c :: rest =>
      if c == quote then
        -- Two single quotes side by side are one that belongs to the text.
        if quote == '\'' && startsWith '\'' rest then do
          let (more, stop) ← readFrom quote fuel (cursor.forward 2)
          return (.char c :: more, stop)
        else .ok ([], cursor.next)
      else do
        let (here, after) ←
          if c == ' ' || c == '\t' || isBreak c then gap cursor
          else if quote == '"' && c == '\\' then escape cursor.next
          else .ok ([.char c], cursor.next)
        let (more, stop) ← readFrom quote fuel after
        return (here ++ more, stop)

/-- The quoted text whose opening quote stands here. -/
def read (quote : Char) (cursor : Cursor) : Except Fault (Text × Cursor) :=
  readFrom quote (cursor.rest.length + 1) cursor.next

end KeyCluster.Yaml.Quotation

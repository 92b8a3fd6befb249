/-! Places in a text, with the classes of characters that YAML tells apart. -/

namespace KeyCluster.Yaml

/-- Whether a character ends a line. -/
def isBreak (c : Char) : Bool :=
  c == '\n' || c == '\r' || c == '\x85' || c == '\u2028' || c == '\u2029'

/-- Whether a text is at the end of a line or of everything. -/
def endsLine : List Char → Bool
  | [] => true
  | c :: _ => isBreak c

/-- Whether a text is at a space or at the end of a line. -/
def endsField : List Char → Bool
  | [] => true
  | c :: _ => c == ' ' || isBreak c

/-- Whether a text is at a blank or at the end of a line. -/
def endsWord : List Char → Bool
  | [] => true
  | c :: _ => c == ' ' || c == '\t' || isBreak c

/-- Whether a text begins with a character. -/
def startsWith (c : Char) (text : List Char) : Bool :=
  text.head? == some c

/-- Whether a text begins with three characters of one kind that stand alone. -/
def startsMark (c : Char) (text : List Char) : Bool :=
  [c, c, c].isPrefixOf text && endsWord (text.drop 3)

/-- Whether a text begins with the mark between documents. -/
def startsSeparator (text : List Char) : Bool :=
  startsMark '-' text || startsMark '.' text

/-- A place in a text. -/
structure Cursor where
  rest : List Char
  index : Nat := 0
  line : Nat := 0
  /-- How many characters of the line come before. -/
  column : Nat := 0

namespace Cursor

/-- The place after the next character. -/
def next (cursor : Cursor) : Cursor :=
  match cursor.rest with
  | [] => cursor
  | c :: rest =>
    -- A carriage return before a line feed does not end the line yet.
    if isBreak c && !(c == '\r' && startsWith '\n' rest) then
      { rest, index := cursor.index + 1, line := cursor.line + 1, column := 0 }
    -- A byte order mark takes no room.
    else if c == '\uFEFF' then { cursor with rest, index := cursor.index + 1 }
    else { cursor with rest, index := cursor.index + 1, column := cursor.column + 1 }

/-- The place a number of characters later. -/
def forward (cursor : Cursor) : Nat → Cursor
  | 0 => cursor
  | count + 1 => cursor.next.forward count

/-- The place after the characters of a class. -/
def skip (p : Char → Bool) (cursor : Cursor) : Cursor :=
  cursor.forward (cursor.rest.takeWhile p).length

/-- The characters of a class from here on, and the place after them. -/
def span (p : Char → Bool) (cursor : Cursor) : List Char × Cursor :=
  (cursor.rest.takeWhile p, cursor.skip p)

/-- The place at the end of the line. -/
def skipLine (cursor : Cursor) : Cursor :=
  cursor.skip fun c => !isBreak c

/-- The place after spaces. -/
def skipSpaces (cursor : Cursor) : Cursor :=
  cursor.skip (· == ' ')

/-- The place after a comment, if one begins here. -/
def skipComment (cursor : Cursor) : Cursor :=
  if startsWith '#' cursor.rest then cursor.skipLine else cursor

/-- The line break that stands here and the place after it. Every common one counts as a line feed. -/
def lineBreak? (cursor : Cursor) : Option (Char × Cursor) :=
  match cursor.rest with
  | '\r' :: '\n' :: _ => some ('\n', cursor.forward 2)
  | c :: _ =>
    if c == '\u2028' || c == '\u2029' then some (c, cursor.next)
    else if isBreak c then some ('\n', cursor.next)
    else none
  | [] => none

/-- The place after a line break, if there is one here. -/
def skipBreak (cursor : Cursor) : Cursor :=
  match cursor.lineBreak? with
  | some (_, after) => after
  | none => cursor

/-- The place after what may end a line: spaces, a comment and the break. Nothing else may stand there. -/
def finishLine? (cursor : Cursor) : Option Cursor :=
  let cursor := cursor.skipSpaces.skipComment
  if endsLine cursor.rest then some cursor.skipBreak else none

/-- The blank lines from here on as their breaks, and the place after them. The indentation of each line
is passed over up to a column. -/
def blankLines (limit : Nat) : (fuel : Nat) → Cursor → List Char × Cursor
  | 0, cursor => ([], cursor)
  | fuel + 1, cursor =>
    let indented := cursor.forward ((cursor.rest.takeWhile (· == ' ')).take (limit - cursor.column)).length
    match indented.lineBreak? with
    | none => ([], indented)
    | some (c, after) =>
      let (breaks, stop) := blankLines limit fuel after
      (c :: breaks, stop)

end Cursor

end KeyCluster.Yaml

import KeyCluster.Yaml.Cursor

/-! Plain texts: words without quotes, perhaps over several lines. -/

namespace KeyCluster.Yaml.Plain

/-- The characters that end a plain text between brackets. -/
def brackets : List Char :=
  [',', '?', '[', ']', '\x7b', '\x7d']

/-- Whether a colon before this text ends a plain text. -/
def endsKey (inFlow : Bool) (text : List Char) : Bool :=
  endsWord text || (inFlow && (text.head?.any fun c => c != '?' && brackets.contains c))

/-- The characters of a plain text up to a blank. -/
def run (inFlow : Bool) : List Char → List Char
  | [] => []
  | c :: rest =>
    if c == ' ' || c == '\t' || isBreak c then []
    else if c == ':' && endsKey inFlow rest then []
    else if inFlow && brackets.contains c then []
    else c :: run inFlow rest

/-- Whether a plain text can begin here. -/
def canStart (inFlow : Bool) : List Char → Bool
  | [] => false
  | c :: rest =>
    if c == '-' then !endsWord rest
    else if c == '?' || c == ':' then !inFlow && !endsWord rest
    else !(c == ' ' || c == '\t' || isBreak c
      || "#&*!|>'\"%@`,[]\x7b\x7d".toList.contains c)

/-- What lies between two lines or words of a plain text. -/
structure Gap where
  text : List Char
  stop : Cursor
  /-- Whether it goes over the end of a line. -/
  broken : Bool

/-- The line breaks after the first one, or nothing if a document ends among them. -/
def breaks? : (fuel : Nat) → Cursor → Option (List Char) × Cursor
  | 0, cursor => (some [], cursor)
  | fuel + 1, cursor =>
    if startsSeparator cursor.rest then (none, cursor)
    else
      let indented := cursor.skipSpaces
      match indented.lineBreak? with
      | none => (some [], indented)
      | some (c, after) =>
        let (more, stop) := breaks? fuel after
        (more.map (c :: ·), stop)

/-- Line breaks as a plain or quoted text shows them: one alone is a space, of several the first is
dropped. -/
def fold (first : Char) (more : List Char) : List Char :=
  if first != '\n' then first :: more
  else if more.isEmpty then [' ']
  else more

/-- The gap that begins here. -/
def gap (cursor : Cursor) : Gap :=
  let (spaces, after) := cursor.span (· == ' ')
  match after.lineBreak? with
  | none => { text := spaces, stop := after, broken := false }
  | some (first, after) =>
    let (more, stop) := breaks? (after.rest.length + 1) after
    { text := (more.map (fold first)).getD [], stop, broken := true }

/-- A plain text: its characters, where it ends, and whether a line ended just before. -/
def readFrom (inFlow : Bool) (indent : Nat) : (fuel : Nat) → Cursor → List Char × Cursor × Bool
  | 0, cursor => ([], cursor, false)
  | fuel + 1, cursor =>
    let word := run inFlow cursor.rest
    let after := gap (cursor.forward word.length)
    -- A comment ends the text, and so does a line that is not indented enough.
    if after.text.isEmpty || startsWith '#' after.stop.rest
        || (!inFlow && after.stop.column < indent) || (run inFlow after.stop.rest).isEmpty then
      (word, after.stop, after.broken)
    else
      let (more, stop, broken) := readFrom inFlow indent fuel after.stop
      (word ++ after.text ++ more, stop, broken)

/-- The plain text that begins here. -/
def read (inFlow : Bool) (indent : Nat) (cursor : Cursor) : List Char × Cursor × Bool :=
  readFrom inFlow indent (cursor.rest.length + 1) cursor

end KeyCluster.Yaml.Plain

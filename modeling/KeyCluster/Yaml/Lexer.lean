import KeyCluster.Yaml.Block
import KeyCluster.Yaml.Heading
import KeyCluster.Yaml.Quotation

/-! The tokens of a text. What is a key shows only at its colon, so the place of everything that may still
turn out to be one is remembered. -/

namespace KeyCluster.Yaml

/-- A place where a key may have begun. -/
structure PossibleKey where
  /-- How many tokens come before it. -/
  number : Nat
  /-- Whether its indentation leaves nothing else for it to be. -/
  required : Bool
  place : Cursor

/-- The state of reading tokens. -/
structure Lexer where
  cursor : Cursor
  /-- How many brackets and braces are open. -/
  flow : Nat := 0
  /-- The column of the innermost block; the document itself has none. -/
  indent : Int := -1
  /-- The columns of the blocks around it, the nearest first. -/
  outer : List Int := []
  mayBeKey : Bool := true
  /-- The place where a key may have begun, for each number of open brackets. -/
  keys : List (Nat × PossibleKey) := []
  /-- The tokens so far, the last one first. -/
  tokens : List Token := []
  count : Nat := 0

namespace Lexer

/-- Adds a token. -/
def emit (token : Token) (lexer : Lexer) : Lexer :=
  { lexer with tokens := token :: lexer.tokens, count := lexer.count + 1 }

/-- Adds a token after the first `number` ones. -/
def insert (number : Nat) (token : Token) (lexer : Lexer) : Lexer :=
  let later := lexer.count - number
  let tokens := lexer.tokens.take later ++ token :: lexer.tokens.drop later
  { lexer with tokens, count := lexer.count + 1 }

/-- Adds a token and goes past its characters. -/
def take (width : Nat) (token : Token) (lexer : Lexer) : Lexer :=
  { lexer.emit token with cursor := lexer.cursor.forward width }

/-- Adds a token and goes on elsewhere. -/
def takeTo (cursor : Cursor) (token : Token) (lexer : Lexer) : Lexer :=
  { lexer.emit token with cursor }

/-- Says whether a key can begin here. -/
def allowKey (allowed : Bool) (lexer : Lexer) : Lexer :=
  { lexer with mayBeKey := allowed }

/-- Whether the text is inside brackets or braces. -/
def inFlow (lexer : Lexer) : Bool :=
  lexer.flow != 0

/-- Whether a key that began at a place is out of reach: keys take one line and few characters. -/
def isStale (lexer : Lexer) (key : PossibleKey) : Bool :=
  key.place.line != lexer.cursor.line || 1024 < lexer.cursor.index - key.place.index

/-- Gives up the keys that are out of reach. -/
def dropStale (lexer : Lexer) : Except Fault Lexer :=
  if lexer.keys.any fun entry => lexer.isStale entry.2 && entry.2.required then
    .error (.malformed .noColon)
  else .ok { lexer with keys := lexer.keys.filter fun entry => !lexer.isStale entry.2 }

/-- Gives up the key that may have begun between the brackets that are open now. -/
def dropKey (lexer : Lexer) : Except Fault Lexer :=
  if lexer.keys.any fun entry => entry.1 == lexer.flow && entry.2.required then
    .error (.malformed .noColon)
  else .ok { lexer with keys := lexer.keys.filter fun entry => entry.1 != lexer.flow }

/-- Remembers that a key may begin here. -/
def saveKey (lexer : Lexer) : Except Fault Lexer :=
  if !lexer.mayBeKey then .ok lexer
  else do
    -- Where a block of the innermost indentation goes on, there has to be a key.
    let required := !lexer.inFlow && lexer.indent == lexer.cursor.column
    let lexer ← lexer.dropKey
    let key := { number := lexer.count, required, place := lexer.cursor }
    return { lexer with keys := (lexer.flow, key) :: lexer.keys }

/-- Ends the blocks that are indented more than a column, given the columns around the innermost one. -/
def unwindThrough (column : Int) : (outer : List Int) → Lexer → Lexer
  | [], lexer => lexer
  | next :: outer, lexer =>
    if column < lexer.indent then
      -- The block ends where another one goes on that is indented less.
      unwindThrough column outer { lexer.emit .blockEnd with indent := next, outer }
    else lexer

/-- Ends the blocks that are indented more than a column. Between brackets indentation means nothing. -/
def unwind (column : Int) (lexer : Lexer) : Lexer :=
  if lexer.inFlow then lexer else unwindThrough column lexer.outer lexer

/-- Begins a block at a column, unless the innermost one is there already; `start` says how. -/
def addIndent (column : Nat) (start : Lexer → Lexer) (lexer : Lexer) : Lexer :=
  if lexer.inFlow || column ≤ lexer.indent then lexer
  else start { lexer with indent := column, outer := lexer.indent :: lexer.outer }

/-- Goes past blanks, comments and line breaks. Each step but the last one passes a break. -/
def skipGap : (fuel : Nat) → Lexer → Lexer
  | 0, lexer => lexer
  | fuel + 1, lexer =>
    let cursor := lexer.cursor.skipSpaces.skipComment
    match cursor.lineBreak? with
    | none => { lexer with cursor }
    | some (_, after) =>
      skipGap fuel { lexer with cursor := after, mayBeKey := lexer.mayBeKey || !lexer.inFlow }

/-- Ends all blocks, as before a directive or at the mark of a document. -/
def endBlocks (lexer : Lexer) : Except Fault Lexer := do
  let lexer ← (lexer.unwind (-1)).dropKey
  return lexer.allowKey false

/-- Reads a directive. -/
def readDirective (lexer : Lexer) : Except Fault Lexer := do
  let lexer ← lexer.endBlocks
  -- What is read is measured by what is left of the text.
  let text := lexer.cursor.rest
  let (directive, rest) ← Heading.directive (text.drop 1)
  match (lexer.cursor.forward (text.length - rest.length)).finishLine? with
  | some after => return lexer.takeTo after (.directive directive)
  | none => throw (.malformed .directive)

/-- Reads the mark before or after a document. -/
def readMark (token : Token) (lexer : Lexer) : Except Fault Lexer := do
  return (← lexer.endBlocks).take 3 token

/-- Reads an opening bracket. -/
def openFlow (token : Token) (lexer : Lexer) : Except Fault Lexer := do
  let lexer ← lexer.saveKey
  return { (lexer.take 1 token).allowKey true with flow := lexer.flow + 1 }

/-- Reads a closing bracket. -/
def closeFlow (token : Token) (lexer : Lexer) : Except Fault Lexer := do
  let lexer ← lexer.dropKey
  match lexer.flow with
  | 0 => throw (.malformed .unopened)
  | flow + 1 => return { (lexer.take 1 token).allowKey false with flow }

/-- Reads a comma. -/
def readComma (lexer : Lexer) : Except Fault Lexer := do
  return ((← lexer.dropKey).take 1 .flowEntry).allowKey true

/-- Reads the hyphen before an item. -/
def readEntry (lexer : Lexer) : Except Fault Lexer := do
  if !lexer.inFlow && !lexer.mayBeKey then throw (.malformed .entryPlace)
  let lexer ← (lexer.addIndent lexer.cursor.column (emit .blockListStart)).dropKey
  return (lexer.take 1 .blockEntry).allowKey true

/-- Reads the question mark before a key. -/
def readKey (lexer : Lexer) : Except Fault Lexer := do
  if !lexer.inFlow && !lexer.mayBeKey then throw (.malformed .keyPlace)
  let lexer ← (lexer.addIndent lexer.cursor.column (emit .blockMapStart)).dropKey
  return (lexer.take 1 .key).allowKey !lexer.inFlow

/-- Reads the colon before a value. What may have been a key now is one. -/
def readValue (lexer : Lexer) : Except Fault Lexer :=
  match lexer.keys.lookup lexer.flow with
  | some key =>
    -- The mark of the key belongs where it began, before tokens that were read since.
    let keys := lexer.keys.filter fun entry => entry.1 != lexer.flow
    let lexer := { lexer with keys }.insert key.number .key
    -- If the key begins a mapping, the mark of that comes before the one of the key.
    let lexer := lexer.addIndent key.place.column (insert key.number .blockMapStart)
    .ok ((lexer.take 1 .value).allowKey false)
  | none => do
    -- There is no key in front of the colon, so the value has an empty one.
    if !lexer.inFlow && !lexer.mayBeKey then throw (.malformed .valuePlace)
    let lexer ← (lexer.addIndent lexer.cursor.column (emit .blockMapStart)).dropKey
    return (lexer.take 1 .value).allowKey !lexer.inFlow

/-- Reads an alias or an anchor. -/
def readName (token : String → Token) (lexer : Lexer) : Except Fault Lexer := do
  let lexer ← lexer.saveKey
  let text := lexer.cursor.rest
  let (name, rest) ← Heading.name (text.drop 1)
  return (lexer.take (text.length - rest.length) (token name)).allowKey false

/-- Reads a tag. -/
def readTag (lexer : Lexer) : Except Fault Lexer := do
  let lexer ← lexer.saveKey
  let text := lexer.cursor.rest
  let (tag, rest) ← Heading.tag (text.drop 1)
  return (lexer.take (text.length - rest.length) tag).allowKey false

/-- Reads a block of text. -/
def readBlock (folded : Bool) (lexer : Lexer) : Except Fault Lexer := do
  let lexer ← (lexer.allowKey true).dropKey
  let (text, after) ← Block.read folded lexer.indent lexer.cursor
  return lexer.takeTo after (.scalar (Text.ofChars text) false)

/-- Reads a quoted text. -/
def readQuoted (quote : Char) (lexer : Lexer) : Except Fault Lexer := do
  let lexer ← lexer.saveKey
  let (text, after) ← Quotation.read quote lexer.cursor
  return (lexer.takeTo after (.scalar text false)).allowKey false

/-- Reads a plain text. -/
def readPlain (lexer : Lexer) : Except Fault Lexer := do
  let lexer ← lexer.saveKey
  let (text, after, broken) := Plain.read lexer.inFlow (lexer.indent + 1).toNat lexer.cursor
  -- After the end of a line a key can begin again.
  return (lexer.takeTo after (.scalar (Text.ofChars text) true)).allowKey broken

/-- Reads the token that begins with the next character. -/
def readToken (c : Char) (lexer : Lexer) : Except Fault Lexer :=
  let text := lexer.cursor.rest
  let rest := text.drop 1
  let atMargin := lexer.cursor.column == 0
  -- Marks at the margin come first, since a word could begin with the same characters.
  if c == '%' && atMargin then lexer.readDirective
  else if atMargin && startsMark '-' text then lexer.readMark .documentStart
  else if atMargin && startsMark '.' text then lexer.readMark .documentEnd
  else if c == '[' then lexer.openFlow .flowListStart
  else if c == '\x7b' then lexer.openFlow .flowMapStart
  else if c == ']' then lexer.closeFlow .flowListEnd
  else if c == '\x7d' then lexer.closeFlow .flowMapEnd
  else if c == ',' then lexer.readComma
  else if c == '-' && endsWord rest then lexer.readEntry
  else if c == '?' && (lexer.inFlow || endsWord rest) then lexer.readKey
  else if c == ':' && (lexer.inFlow || endsWord rest) then lexer.readValue
  else if c == '*' then lexer.readName .alias
  else if c == '&' then lexer.readName .anchor
  else if c == '!' then lexer.readTag
  else if c == '|' && !lexer.inFlow then lexer.readBlock false
  else if c == '>' && !lexer.inFlow then lexer.readBlock true
  else if c == '\'' || c == '"' then lexer.readQuoted c
  else if Plain.canStart lexer.inFlow text then lexer.readPlain
  else .error (.malformed .noToken)

/-- Reads the next token. Nothing is the state after the last one. -/
def step (lexer : Lexer) : Except Fault (Lexer × Bool) := do
  let lexer ← (skipGap (lexer.cursor.rest.length + 1) lexer).dropStale
  let lexer := lexer.unwind lexer.cursor.column
  match lexer.cursor.rest with
  | [] => return (← lexer.endBlocks, true)
  | c :: _ => return (← lexer.readToken c, false)

/-- The tokens that are certain: a token that may still turn out to begin a key is not, since the mark of
the key would come before it, nor is what follows it. -/
def certain (lexer : Lexer) : List Token :=
  let open_ := lexer.keys.filter fun entry => !lexer.isStale entry.2
  lexer.tokens.reverse.take ((open_.map fun entry => entry.2.number).foldl min lexer.count)

/-- Reads tokens to the end or to the first fault, before which only the certain tokens count. Each step
reads at least one character, so `fuel` may be their number. -/
def run : (fuel : Nat) → Lexer → List Token × Option Fault
  | 0, lexer => (lexer.tokens.reverse, none)
  | fuel + 1, lexer =>
    match lexer.step with
    -- The fault ends the text, but what is certain was read before it.
    | .error fault => (lexer.certain, some fault)
    | .ok (after, true) => (after.tokens.reverse, none)
    | .ok (after, false) => run fuel after

end Lexer

/-- The tokens of a text, and the fault that ends them if there is one. -/
def Token.ofText (text : List Char) : List Token × Option Fault :=
  let start : Cursor := { rest := text }
  -- A byte order mark before everything is passed over.
  let cursor := if startsWith '\uFEFF' text then start.next else start
  Lexer.run (text.length + 2) { cursor }

end KeyCluster.Yaml

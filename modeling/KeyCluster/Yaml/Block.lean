import KeyCluster.Text.Digit
import KeyCluster.Yaml.Cursor
import KeyCluster.Yaml.Fault

/-! Blocks of text: indented lines whose breaks are kept or folded. -/

namespace KeyCluster.Yaml.Block

/-- What becomes of the line breaks at the end of a block. -/
inductive Chomp where
  /-- All are dropped. -/
  | strip
  /-- One stays. -/
  | clip
  /-- All stay. -/
  | keep
  deriving DecidableEq, Repr

/-- The sign that says what becomes of the last breaks, and the text after it. -/
def chomp : List Char → Chomp × List Char
  | '+' :: rest => (.keep, rest)
  | '-' :: rest => (.strip, rest)
  | rest => (.clip, rest)

/-- The digit that says how far the block is indented, and the text after it. -/
def width : List Char → Option Nat × List Char
  | c :: rest => if c.isDigit then (some (c.toNat - '0'.toNat), rest) else (none, c :: rest)
  | [] => (none, [])

/-- The indentation up to the first line with content: the breaks before it, the deepest column, and the
place where the content begins. -/
def indentation : (fuel : Nat) → Cursor → List Char × Nat × Cursor
  | 0, cursor => ([], 0, cursor)
  | fuel + 1, cursor =>
    let indented := cursor.skipSpaces
    let column := if startsWith ' ' cursor.rest then indented.column else 0
    match indented.lineBreak? with
    | none => ([], column, indented)
    | some (c, after) =>
      let (breaks, deepest, stop) := indentation fuel after
      (c :: breaks, max column deepest, stop)

/-- How the lines of a block are read. -/
structure Style where
  /-- Whether single breaks become spaces. -/
  folded : Bool
  chomp : Chomp
  indent : Nat

/-- Whether a line of the block begins here. -/
def Style.atLine (style : Style) (cursor : Cursor) : Bool :=
  cursor.column == style.indent && !cursor.rest.isEmpty

/-- What the break after the last line and the blank lines after that leave. -/
def Style.tail (style : Style) (last breaks : List Char) : List Char :=
  match style.chomp with
  | .strip => []
  | .clip => last
  | .keep => last ++ breaks

/-- Whether a line is folded: it begins with no blank. -/
def isFlush (text : List Char) : Bool :=
  !(startsWith ' ' text || startsWith '\t' text)

/-- What joins a line to the next one, after the break between them. -/
def Style.joint (style : Style) (line next last breaks : List Char) : List Char :=
  if style.folded && last == ['\n'] && isFlush line && isFlush next then
    if breaks.isEmpty then [' '] else []
  else last

/-- The lines from here on, after blank lines with these breaks. -/
def Style.lines (style : Style) : (fuel : Nat) → (breaks : List Char) → Cursor → List Char × Cursor
  | 0, _, cursor => ([], cursor)
  | fuel + 1, breaks, cursor =>
    if !style.atLine cursor then (style.tail [] breaks, cursor)
    else
      let (line, ending) := cursor.span fun c => !isBreak c
      let last := (ending.lineBreak?.map fun found => [found.1]).getD []
      let (more, next) := ending.skipBreak.blankLines style.indent (ending.rest.length + 1)
      -- More lines follow, and what joins them depends on how this one and the next begin.
      if style.atLine next then
        let (text, stop) := style.lines fuel more next
        (breaks ++ line ++ style.joint cursor.rest next.rest last more ++ text, stop)
      else (breaks ++ line ++ style.tail last more, next)

/-- The block whose indicator stands here, inside something that is indented by `indent`. -/
def read (folded : Bool) (indent : Int) (cursor : Cursor) : Except Fault (List Char × Cursor) := do
  let head := cursor.next
  let (first, rest) := chomp head.rest
  let (count, rest) := width rest
  -- The two signs of the head may come in either order.
  let (chomp, rest) := if first == .clip then chomp rest else (first, rest)
  if count == some 0 || !endsField rest then throw (.malformed .blockHead)
  match (head.forward (head.rest.length - rest.length)).finishLine? with
  | none => throw (.malformed .blockHead)
  | some start =>
    let least := max 1 (indent + 1).toNat
    let fuel := start.rest.length + 1
    match count with
    | none =>
      let (breaks, deepest, stop) := indentation fuel start
      return { folded, chomp, indent := max least deepest : Style }.lines fuel breaks stop
    | some count =>
      let (breaks, stop) := start.blankLines (least + count - 1) fuel
      return { folded, chomp, indent := least + count - 1 : Style }.lines fuel breaks stop

end KeyCluster.Yaml.Block

import KeyCluster.Yaml.Grammar

/-! The document that a text consists of. -/

namespace KeyCluster.Yaml

/-- Whether a document can hold a character. -/
def isAllowed (c : Char) : Bool :=
  let n := c.toNat
  n == 0x09 || n == 0x0A || n == 0x0D || (0x20 ≤ n && n ≤ 0x7E) || n == 0x85
    || (0xA0 ≤ n && n ≤ 0xD7FF) || (0xE000 ≤ n && n ≤ 0xFFFD) || 0x10000 ≤ n

/-- The handles that stand for something without being declared. -/
def commonHandles : List (String × String) :=
  [("!", "!"), ("!!", Tag.base)]

namespace Reader

/-- Reads the directives before a document, where `version` says that one told the version. Each call reads
a token, so `fuel` may be their number. -/
def readDirectives : (fuel : Nat) → (version : Bool) → List (String × String) →
    Reader (List (String × String))
  | 0, _, handles => return handles
  | fuel + 1, version, handles => do
    match ← peek with
    | some (.directive (.version major _)) =>
      skip
      -- The version can be told once, and has to be one that is known.
      if version || major != 1 then flaw .directiveUse
      readDirectives fuel true handles
    | some (.directive (.handle handle expansion)) =>
      skip
      if (handles.lookup handle).isSome then flaw .directiveUse
      readDirectives fuel version ((handle, expansion) :: handles)
    | some (.directive .other) =>
      skip
      readDirectives fuel version handles
    | _ => return handles

/-- Reads past the marks after a document. -/
def skipEnds : (fuel : Nat) → Reader Unit
  | 0 => return ()
  | fuel + 1 => do
    if ← accept .documentEnd then skipEnds fuel

/-- Whether a directive comes next. -/
def atDirective : Reader Bool := do
  match ← peek with
  | some (.directive _) => return true
  | _ => return false

/-- Reads the node of a document that is announced by a mark. -/
def content (fuel : Nat) : Reader Nat := do
  if (← peek).isNone || (← atDirective) || (← atAny [.documentStart, .documentEnd]) then
    absent
  else node { block := true, flush := false } fuel

/-- Reads the only document, if there is one. -/
def stream (fuel : Nat) : Reader (Option Nat) := do
  if (← peek).isNone then return none
  let root ←
    if (← atDirective) || (← at_ .documentStart) then do
      let handles ← readDirectives fuel false []
      -- What is declared comes before what is common.
      modify fun reading => { reading with handles := handles ++ commonHandles }
      expect .documentStart
      content fuel
    else
      node { block := true, flush := false } fuel
  skipEnds fuel
  if (← peek).isSome then flaw .secondDocument
  return some root

end Reader

/-- How many lists and mappings may stand inside each other. The grammar has no limit: this one is that of the
interpreter that runs the program (release 3.11), which has room for a thousand nested calls by default, and
reading takes two of them for a level. -/
def depthLimit : Nat :=
  488

/-- The nodes of the document in a text, with the number of its root, if there is a document. -/
def Graph.ofText (text : List Char) : Except Fault (Graph × Option Nat) :=
  if !text.all isAllowed then .error (.malformed .unprintable)
  else
    let (tokens, fault) := Token.ofText text
    ((Reader.stream (4 * tokens.length + 4)).run
      { tokens, fault, handles := commonHandles, room := depthLimit }).map
        fun (root, reading) => (reading.graph, root)

end KeyCluster.Yaml

import KeyCluster.Yaml.Lexer
import KeyCluster.Yaml.Node

/-! The nodes that the tokens of a document form. -/

namespace KeyCluster.Yaml

/-- The state of reading nodes. -/
structure Reading where
  tokens : List Token
  /-- The fault that ends the tokens, if there is one. -/
  fault : Option Fault
  /-- The nodes so far. Those that are not read to their end are empty yet. -/
  graph : Graph := {}
  /-- The numbers of the nodes that aliases can name. -/
  anchors : List (String × Nat) := []
  handles : List (String × String) := []
  /-- How many lists and mappings may stand inside each other from here on. -/
  room : Nat

/-- Reads a part of a document. -/
abbrev Reader := StateT Reading (Except Fault)

namespace Reader

/-- Fails for a flaw in the form of the document. -/
def flaw {α : Type} (flaw : Flaw) : Reader α :=
  throw (.malformed flaw)

/-- The next token, or nothing at the end. -/
def peek : Reader (Option Token) := do
  let reading ← get
  match reading.tokens, reading.fault with
  | token :: _, _ => return some token
  | [], some fault => throw fault
  | [], none => return none

/-- Goes past the next token. -/
def skip : Reader Unit :=
  modify fun reading => { reading with tokens := reading.tokens.drop 1 }

/-- Whether the next token is a given one. -/
def at_ (token : Token) : Reader Bool := do
  return (← peek) == some token

/-- Whether the next token is one of some. -/
def atAny (tokens : List Token) : Reader Bool := do
  return (← peek).any tokens.contains

/-- Goes past the next token if it is a given one, and says whether it did. -/
def accept (token : Token) : Reader Bool := do
  if ← at_ token then
    skip
    return true
  return false

/-- Goes past a token that has to come next. -/
def expect (token : Token) : Reader Unit := do
  if !(← accept token) then flaw .misplaced

/-- What stands before a node. -/
structure Head where
  anchor : Option String := none
  /-- The full name of its tag. -/
  tag : Option String := none

/-- The full name of a tag. -/
def fullName (handle : Option String) (suffix : String) : Reader String := do
  match handle with
  | none => return suffix
  | some handle => match (← get).handles.lookup handle with
    | some expansion => return expansion ++ suffix
    | none => flaw .tagHandle

/-- Reads an anchor, if one comes next. -/
def readAnchor : Reader (Option String) := do
  match ← peek with
  | some (.anchor name) =>
    skip
    return some name
  | _ => return none

/-- Reads a tag, if one comes next: its handle and what follows that. -/
def readTag : Reader (Option (Option String × String)) := do
  match ← peek with
  | some (.tag handle suffix) =>
    skip
    return some (handle, suffix)
  | _ => return none

/-- Reads what stands before a node: an anchor and a tag in any order, each at most once. What the handle of
the tag stands for is looked up after both. -/
def readHead : Reader Head := do
  let anchor ← readAnchor
  match ← readTag with
  | none => return { anchor }
  | some (handle, suffix) =>
    let anchor ← if anchor.isSome then pure anchor else readAnchor
    return { anchor, tag := some (← fullName handle suffix) }

/-- Adds a node and gives it its name, unless another node has that. -/
def declare (head : Head) (node : Node) : Reader Nat := do
  let number := (← get).graph.size
  if let some name := head.anchor then
    if ((← get).anchors.lookup name).isSome then flaw .repeatedAnchor
    modify fun reading => { reading with anchors := (name, number) :: reading.anchors }
  modify fun reading => { reading with graph := reading.graph.add node }
  return number

/-- Reads a node of which nothing is written. -/
def absent : Reader Nat :=
  declare {} .absent

/-- The tag of a list or mapping, which has a default. -/
def collectionTag (head : Head) (default : Tag) : Tag :=
  match head.tag with
  | none | some "!" => default
  | some name => Tag.ofName name

/-- The tag of a text: said, or shown by the form of plain texts. -/
def scalarTag (head : Head) (text : Text) (plain : Bool) : Tag :=
  match head.tag with
  | none => if plain then Tag.ofPlain text else .string
  | some "!" => Tag.ofPlain text
  | some name => Tag.ofName name

/-- Goes one level deeper. -/
def enter : Reader Unit := do
  match (← get).room with
  | 0 => throw .tooDeep
  | room + 1 => modify fun reading => { reading with room }

/-- Reads a list or mapping, which aliases inside of it can name before it is complete. -/
def collection (head : Head) (tag : Tag) (empty : Content) (read : Reader Content) : Reader Nat := do
  let number ← declare head { tag, content := empty }
  enter
  let content ← read
  modify fun reading =>
    { reading with graph := reading.graph.fill number content, room := reading.room + 1 }
  return number

/-- Reads a list. -/
def list (head : Head) (read : Reader (List Nat)) : Reader Nat :=
  collection head (collectionTag head .list) (.sequence []) (.sequence <$> read)

/-- Reads a mapping. -/
def mapping (head : Head) (read : Reader (List (Nat × Nat))) : Reader Nat :=
  collection head (collectionTag head .map) (.mapping []) (.mapping <$> read)

/-- A text as a node. -/
def scalar (head : Head) (text : Text) (plain : Bool) : Reader Nat :=
  declare head { tag := scalarTag head text plain, content := .text text }

/-- A node of which only the head is written. -/
def bare (head : Head) : Reader Nat := do
  if head.anchor.isNone && head.tag.isNone then flaw .misplaced
  scalar head [] true

/-- The node of an alias. -/
def named (name : String) : Reader Nat := do
  match (← get).anchors.lookup name with
  | some number => return number
  | none => flaw .unknownAlias

/-- Where a node stands: what blocks may begin it. -/
structure Place where
  /-- Whether a block can begin here. -/
  block : Bool
  /-- Whether the items of a list can begin here without more indentation. -/
  flush : Bool

mutual

/-- Reads a node, which it tells by its number. Every call reads at least one token or calls another function
that does, so `fuel` may be a multiple of their number. -/
def node (place : Place) : (fuel : Nat) → Reader Nat
  | 0 => flaw .misplaced
  | fuel + 1 => do
    if let some (.alias name) := ← peek then
      skip
      return ← named name
    let head ← readHead
    match ← peek with
    | some .blockEntry =>
      if place.flush then
        list head (flushItems fuel)
      else bare head
    | some (.scalar text plain) =>
      skip
      scalar head text plain
    | some .flowListStart =>
      skip
      list head (flowItems true fuel)
    | some .flowMapStart =>
      skip
      mapping head (flowEntries true fuel)
    | some .blockListStart =>
      if place.block then
        skip
        list head (blockItems fuel)
      else bare head
    | some .blockMapStart =>
      if place.block then
        skip
        mapping head (blockEntries fuel)
      else bare head
    | _ => bare head
  termination_by fuel => 5 * fuel

/-- Reads a node, unless one of some tokens comes next. -/
def nodeUnless (ends : List Token) (place : Place) (fuel : Nat) : Reader Nat := do
  if ← atAny ends then absent
  else node place fuel
  termination_by 5 * fuel + 1

/-- Reads the items of a list by indentation. -/
def blockItems : (fuel : Nat) → Reader (List Nat)
  | 0 => flaw .misplaced
  | fuel + 1 => do
    if ← accept .blockEntry then
      let item ← nodeUnless [.blockEntry, .blockEnd] { block := true, flush := false } fuel
      return item :: (← blockItems fuel)
    expect .blockEnd
    return []
  termination_by fuel => 5 * fuel

/-- Reads the items of a list that is indented no more than the mapping around it. -/
def flushItems : (fuel : Nat) → Reader (List Nat)
  | 0 => flaw .misplaced
  | fuel + 1 => do
    if ← accept .blockEntry then
      let item ← nodeUnless [.blockEntry, .key, .value, .blockEnd] { block := true, flush := false } fuel
      return item :: (← flushItems fuel)
    return []
  termination_by fuel => 5 * fuel

/-- Reads the value of a key by indentation, if there is one. -/
def blockValue (fuel : Nat) : Reader Nat := do
  if ← accept .value then
    nodeUnless [.key, .value, .blockEnd] { block := true, flush := true } fuel
  else absent
  termination_by 5 * fuel + 2

/-- Reads the entries of a mapping by indentation. -/
def blockEntries : (fuel : Nat) → Reader (List (Nat × Nat))
  | 0 => flaw .misplaced
  | fuel + 1 => do
    if ← accept .key then
      let key ← nodeUnless [.key, .value, .blockEnd] { block := true, flush := true } fuel
      let value ← blockValue fuel
      return (key, value) :: (← blockEntries fuel)
    expect .blockEnd
    return []
  termination_by fuel => 5 * fuel

/-- Reads the value of a key between brackets, if there is one. -/
def flowValue (closing : Token) (fuel : Nat) : Reader Nat := do
  if ← accept .value then nodeUnless [.flowEntry, closing] { block := false, flush := false } fuel
  else absent
  termination_by 5 * fuel + 2

/-- Reads a key between brackets with its value. -/
def flowPair (closing : Token) (fuel : Nat) : Reader (Nat × Nat) := do
  let key ← nodeUnless [.value, .flowEntry, closing] { block := false, flush := false } fuel
  return (key, ← flowValue closing fuel)
  termination_by 5 * fuel + 3

/-- Reads an item between brackets; a key with its value is a mapping of one entry. -/
def flowItem (fuel : Nat) : Reader Nat := do
  if ← accept .key then
    return ← mapping {} (return [← flowPair .flowListEnd fuel])
  node { block := false, flush := false } fuel
  termination_by 5 * fuel + 4

/-- Reads the items of a list in brackets. -/
def flowItems (first : Bool) : (fuel : Nat) → Reader (List Nat)
  | 0 => flaw .misplaced
  | fuel + 1 => do
    if ← accept .flowListEnd then return []
    if !first then expect .flowEntry
    -- A comma may come last.
    if ← accept .flowListEnd then return []
    let item ← flowItem fuel
    return item :: (← flowItems false fuel)
  termination_by fuel => 5 * fuel

/-- Reads an entry between braces; a node alone is a key without a value. -/
def flowEntry (fuel : Nat) : Reader (Nat × Nat) := do
  if ← accept .key then flowPair .flowMapEnd fuel
  else return (← node { block := false, flush := false } fuel, ← absent)
  termination_by 5 * fuel + 4

/-- Reads the entries of a mapping in braces. -/
def flowEntries (first : Bool) : (fuel : Nat) → Reader (List (Nat × Nat))
  | 0 => flaw .misplaced
  | fuel + 1 => do
    if ← accept .flowMapEnd then return []
    if !first then expect .flowEntry
    -- A comma may come last.
    if ← accept .flowMapEnd then return []
    let entry ← flowEntry fuel
    return entry :: (← flowEntries false fuel)
  termination_by fuel => 5 * fuel

end

end Reader

end KeyCluster.Yaml

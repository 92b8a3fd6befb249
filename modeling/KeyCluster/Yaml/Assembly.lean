import KeyCluster.Yaml.Merge
import KeyCluster.Yaml.Scalar

/-! What the nodes of a document are built into. Lists, sets and mappings are begun empty and filled in turn,
those of a level of the document before those inside them, so they may hold themselves. Of several faults the
first one that is met so decides. -/

namespace KeyCluster.Yaml

/-- A value of which the lists, sets and mappings are told by the numbers of their nodes. -/
inductive Part where
  | value (value : Value)
  /-- The list, set or mapping of a node. -/
  | node (number : Nat)

/-- A key, with the node that it comes from; the word for no number is one key wherever it stands. -/
structure Key where
  value : Value
  /-- The number of its node. -/
  source : Option Nat

/-- Whether two keys are the same. What is no number equals nothing but itself. -/
def Key.isSame (a b : Key) : Bool :=
  a.source == b.source || a.value.isSameKey b.value

/-- What is in a list, set or mapping. -/
inductive Holding where
  | list (items : List Part)
  /-- The items of a list of pairs. -/
  | pairs (items : List (Part × Part))
  | set (keys : List Key)
  | map (entries : List (Key × Part))

/-- The entries with a value under a key. A key that is there already keeps its place and form. -/
def Holding.put (key : Key) (part : Part) : List (Key × Part) → List (Key × Part)
  | [] => [(key, part)]
  | (k, p) :: rest => if k.isSame key then (k, part) :: rest else (k, p) :: put key part rest

/-- Whether what is built under a tag can hold other values, so that it is no key. -/
def Tag.isCollection : Tag → Bool
  | .list | .map | .set | .orderedMap | .pairs => true
  | _ => false

/-- The state of building values. -/
structure Assembly where
  /-- The nodes; merging changes them. -/
  graph : Graph
  /-- What is in each list, set and mapping that is filled, by the number of its node. -/
  filled : Array (Option Holding)
  begun : Array Bool
  /-- The nodes that were begun and are filled next, the last one first. -/
  waiting : List Nat := []

/-- Builds a part of the value of a document. -/
abbrev Builder :=
  StateT Assembly (Except Fault)

namespace Builder

/-- Fails for a flaw in the form of the document. -/
def flaw {α : Type} (flaw : Flaw) : Builder α :=
  throw (.malformed flaw)

/-- The node under a number. -/
def node (number : Nat) : Builder Node := do
  return (← get).graph.node number

/-- The text of a node. A mapping stands for what is under its value key, so `fuel` bounds how many of them
are looked into. -/
def textOf : (fuel number : Nat) → Builder Text
  | 0, _ => throw .tooDeep
  | fuel + 1, number => do
    let graph := (← get).graph
    match (graph.node number).content with
    | .text text => return text
    | .sequence _ => flaw .nodeKind
    | .mapping entries =>
      match entries.find? fun entry => graph.tagOf entry.1 == .value with
      -- A mapping under this key may have one itself.
      | some (_, value) => textOf fuel value
      | none => flaw .nodeKind

/-- The text of a node that is built into something without parts. -/
def scalarText (number : Nat) : Builder Text := do
  -- More mappings than there are nodes can only stand inside each other.
  textOf ((← get).graph.size + 1) number

/-- Builds a node into something without parts. -/
def scalar (number : Nat) (tag : Tag) : Builder Value := do
  let text ← scalarText number
  match tag, (← node number).content with
  -- Times are not looked for where their text only stands in for a mapping.
  | .timestamp, .mapping _ => throw (.value (.notSearchable .list))
  | _, _ => Scalar.build tag text

/-- Begins a list, set or mapping, unless it was begun before. -/
def begin (number : Nat) : Builder Unit :=
  modify fun assembly =>
    -- What was begun is found under its number, filled or not.
    if assembly.begun[number]?.getD true then assembly
    else { assembly with
      begun := assembly.begun.setIfInBounds number true, waiting := number :: assembly.waiting }

/-- Builds a node. -/
def construct (number : Nat) : Builder Part := do
  let tag := (← node number).tag
  if tag.isCollection then
    begin number
    return .node number
  else if Scalar.isScalarTag tag then return .value (← scalar number tag)
  else flaw .unknownTag

/-- Builds the node of a key. What can hold other values is no key. -/
def key (number : Nat) : Builder Key := do
  match ← construct number with
  | .node _ => flaw .unhashable
  | .value value =>
    let isWord := (← node number).tag == .float && Scalar.isCommonNan (← scalarText number)
    return { value, source := if isWord then none else some number }

/-- Builds the items of a node that has to be a list. -/
def items (number : Nat) : Builder (List Part) := do
  match (← node number).content with
  | .sequence items => items.mapM construct
  | _ => flaw .nodeKind

/-- Builds an item of a list of pairs, which is a mapping of one entry. -/
def pair (number : Nat) : Builder (Part × Part) := do
  match (← node number).content with
  | .mapping [(key, value)] => return (← construct key, ← construct value)
  | _ => flaw .nodeKind

/-- Builds the items of a node that has to be a list of pairs. -/
def pairs (number : Nat) : Builder (List (Part × Part)) := do
  match (← node number).content with
  | .sequence items => items.mapM pair
  | _ => flaw .nodeKind

/-- Merges into a mapping the entries that its merge keys stand for. -/
def merge (number : Nat) : Builder Unit := do
  let assembly ← get
  let (_, graph) ← (Editing.flatten (assembly.graph.entryCount + 1) number).run assembly.graph
  set { assembly with graph }

/-- Builds the entries of a node that has to be a mapping; the last one decides among those of one key. -/
def entries (number : Nat) : Builder (List (Key × Part)) := do
  match (← node number).content with
  | .mapping _ =>
    merge number
    ((← get).graph.entriesOf number).foldlM (fun done entry => do
      let key ← key entry.1
      return Holding.put key (← construct entry.2) done) []
  | _ => flaw .nodeKind

/-- Builds what is in a list, set or mapping. -/
def holding (number : Nat) : Builder Holding := do
  match (← node number).tag with
  | .orderedMap | .pairs => return .pairs (← pairs number)
  | .set => return .set ((← entries number).map (·.1))
  | .map => return .map (← entries number)
  | _ => return .list (← items number)

/-- Fills a list, set or mapping. -/
def fill (number : Nat) : Builder Unit := do
  let found ← holding number
  modify fun assembly =>
    { assembly with filled := assembly.filled.setIfInBounds number (some found) }

/-- Fills everything that was begun, and what is begun meanwhile. Every node is begun at most once, so `fuel`
may be one more than their number. -/
def fillAll : (fuel : Nat) → Builder Unit
  | 0 => return ()
  | fuel + 1 => do
    match (← get).waiting.reverse with
    | [] => return ()
    | level =>
      modify fun assembly => { assembly with waiting := [] }
      level.forM fill
      fillAll fuel

end Builder

/-- Everything that was filled, by the numbers of the nodes. -/
abbrev Holdings := Array (Option Holding)

/-- What a node is built into, and everything in it. -/
def Graph.assemble (graph : Graph) (root : Nat) : Except Fault (Part × Holdings) := do
  let start : Assembly :=
    { graph, filled := Array.replicate graph.size none, begun := Array.replicate graph.size false }
  let build : Builder Part := do
    let part ← Builder.construct root
    Builder.fillAll (graph.size + 1)
    return part
  let (part, assembly) ← build.run start
  return (part, assembly.filled)

end KeyCluster.Yaml

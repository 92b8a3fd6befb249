import KeyCluster.Yaml.Fault
import KeyCluster.Yaml.Node

/-! Merging mappings: an entry under the merge key stands for the entries of other mappings, which come
before those of the mapping itself. -/

namespace KeyCluster.Yaml

namespace Graph

/-- The entries of a mapping; other nodes have none. -/
def entriesOf (graph : Graph) (number : Nat) : List (Nat × Nat) :=
  match (graph.node number).content with
  | .mapping entries => entries
  | _ => []

/-- Whether an entry stands under the merge key. -/
def isMerge (graph : Graph) (entry : Nat × Nat) : Bool :=
  graph.tagOf entry.1 == .merge

/-- How many entries there are in all mappings. -/
def entryCount (graph : Graph) : Nat :=
  graph.nodes.foldl (fun count node => match node.content with
    | .mapping entries => count + entries.length
    | _ => count) 0

end Graph

/-- Changes the nodes of a document, and may fail. -/
abbrev Editing :=
  StateT Graph (Except Fault)

namespace Editing

/-- Takes the first entry under the merge key out of a mapping; what stood there is the result. -/
def takeMerge? (number : Nat) : Editing (Option Nat) := do
  let graph ← get
  let entries := graph.entriesOf number
  match entries.dropWhile fun entry => !graph.isMerge entry with
  | [] => return none
  | (_, source) :: after =>
    -- Only the first merge key is taken out here.
    let before := entries.takeWhile fun entry => !graph.isMerge entry
    set (graph.fill number (.mapping (before ++ after)))
    return some source

/-- Puts entries before those of a mapping. A value key of the mapping is a text from then on. -/
def prepend (number : Nat) (merged : List (Nat × Nat)) : Editing Unit :=
  modify fun graph =>
    let own := graph.entriesOf number
    let values := (own.map (·.1)).filter fun key => graph.tagOf key == .value
    (values.foldl (fun graph key => graph.retag key .string) graph).fill number
      (.mapping (merged ++ own))

section

-- Gathers the entries that the merge keys of a mapping stand for.
variable (gather : Nat → Editing (List (Nat × Nat)))

/-- The entries of a mapping, with those before them that its merge keys stand for. -/
def settled (number : Nat) : Editing (List (Nat × Nat)) := do
  prepend number (← gather number)
  return (← get).entriesOf number

/-- The entries of mappings, those of the last one first. -/
def bringAll : List Nat → Editing (List (Nat × Nat))
  | [] => return []
  | item :: rest => do
    match ((← get).node item).content with
    | .mapping _ =>
      let here ← settled gather item
      return (← bringAll rest) ++ here
    | _ => throw (.malformed .merge)

/-- The entries that a node under the merge key stands for. -/
def bring (source : Nat) : Editing (List (Nat × Nat)) := do
  match ((← get).node source).content with
  | .mapping _ => settled gather source
  | .sequence items => bringAll gather items
  | .text _ => throw (.malformed .merge)

end

/-- The entries that the merge keys of a mapping stand for; these keys are taken out. Each step takes one
out, so `fuel` may be the number of all entries and one more. -/
def collect : (fuel : Nat) → (number : Nat) → Editing (List (Nat × Nat))
  | 0, _ => return []
  | fuel + 1, number => do
    match ← takeMerge? number with
    | none => return []
    | some source =>
      -- The mapping itself may have got more merge keys on the way.
      let here ← bring (collect fuel) source
      return here ++ (← collect fuel number)

/-- Puts the entries that the merge keys of a mapping stand for before its own. -/
def flatten (fuel number : Nat) : Editing Unit := do
  prepend number (← collect fuel number)

end Editing

end KeyCluster.Yaml

import KeyCluster.Yaml.Tag
import KeyCluster.Yaml.Timestamp

/-! The nodes of a document: texts, lists and mappings with their tags. Nodes are told by numbers, since one
may stand in several places, and even inside itself. -/

namespace KeyCluster.Yaml

/-- What a node consists of. -/
inductive Content where
  | text (text : Text)
  /-- A list of nodes, by number. -/
  | sequence (items : List Nat)
  /-- Nodes under nodes, by number. -/
  | mapping (entries : List (Nat × Nat))
  deriving DecidableEq, Repr

/-- A part of a document. -/
structure Node where
  tag : Tag
  content : Content
  deriving DecidableEq, Repr

/-- A text without the line feed that it may end with. -/
def dropFeed (text : List Char) : List Char :=
  match text.reverse with
  | '\n' :: c :: rest => (c :: rest).reverse
  | _ => text

/-- The tag that a plain text has by its form. -/
def Tag.ofPlain (text : Text) : Tag :=
  let form := dropFeed text.chars
  let word := String.ofList form
  if isTruth word then .bool
  else if isDouble form then .float
  else if isInteger form then .int
  else if word == "<<" then .merge
  else if isAbsent word then .null
  else if Timestamp.isTimestamp form then .timestamp
  else if word == "=" then .value
  else if word == "!" || word == "&" || word == "*" then .other (base ++ "yaml")
  else .string

/-- A node of which nothing is written. -/
def Node.absent : Node :=
  { tag := .null, content := .text [] }

/-- Nodes, each under its number. -/
structure Graph where
  /-- The nodes in the order of their numbers. -/
  nodes : Array Node := #[]

namespace Graph

/-- The graph with one node more. -/
def add (node : Node) (graph : Graph) : Graph :=
  { nodes := graph.nodes.push node }

/-- The number of the node that is added next. -/
def size (graph : Graph) : Nat :=
  graph.nodes.size

/-- The node under a number. -/
def node (number : Nat) (graph : Graph) : Node :=
  graph.nodes[number]?.getD .absent

/-- The graph with another content of a node. -/
def fill (number : Nat) (content : Content) (graph : Graph) : Graph :=
  { nodes := graph.nodes.modify number fun node => { node with content } }

/-- The graph with another tag of a node. -/
def retag (number : Nat) (tag : Tag) (graph : Graph) : Graph :=
  { nodes := graph.nodes.modify number fun node => { node with tag } }

/-- The tag of a node. -/
def tagOf (graph : Graph) (number : Nat) : Tag :=
  (graph.node number).tag

end Graph

end KeyCluster.Yaml

import KeyCluster.Cluster.Endpoint

/-! What a server reports about the cluster that it belongs to. -/

namespace KeyCluster

/-- A reachable member of a cluster. Reports do not promise that its host is a text. -/
structure Node where
  id : Int
  /-- The host of the member, as reported. -/
  host : Value

/-- The members of a cluster: those that are up, and those that are down. -/
structure Report where
  up : List Node
  /-- The hosts of the members that cannot be reached, as reported. -/
  down : List Value

namespace Report

/-- How many members the cluster has. -/
def size (report : Report) : Nat :=
  report.up.length + report.down.length

/-- Whether the server is alone in its cluster. -/
def isStandalone (report : Report) : Bool :=
  report.size == 1

/-- The hosts of all members, those that are up first. -/
def hosts (report : Report) : Except ValueFault (List Text) :=
  (report.up.map Node.host ++ report.down).mapM Endpoint.hostOf

/-- The value under a name in a mapping; other shapes cannot be asked. -/
def ask (name : Text) : Value → Except ValueFault (Option Value)
  | .map entries => .ok (Value.field? name entries)
  | v => .error (.noMember v.kind "get")

/-- The parts of a value that may be left out: what does not count as given has none. -/
def optionalParts (value : Option Value) : Except ValueFault (List Value) :=
  match value with
  | some v => if v.isGiven then v.parts else .ok []
  | none => .ok []

/-- The member that an entry describes: its number, zero if there is none, and its host. -/
def nodeOf (entry : Value) : Except ValueFault Node := do
  let id ← ((← ask "id" entry).getD (.int 0)).toInteger
  match ← ask "host" entry with
  | some host => return { id, host }
  | none => throw (.missingKey (.text "host"))

/-- The report in the body of a status answer. -/
def ofValue (body : Value) : Except ValueFault Report := do
  let up ← (← optionalParts (← ask "nodes_up" body)).mapM nodeOf
  let down ← optionalParts (← ask "nodes_down" body)
  return { up, down }

/-- The fields of a report, by the names that status answers use. -/
def fields (report : Report) : List (Text × Value) :=
  [("nodes_up", .list (report.up.map fun node => .record [("id", .int node.id), ("host", node.host)])),
    ("nodes_down", .list report.down)]

/-- The body of the status answer that a report is read from. -/
def toValue (report : Report) : Value :=
  .record report.fields

end Report

end KeyCluster

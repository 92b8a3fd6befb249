import KeyCluster.Cluster.ControlPlane
import KeyCluster.Cluster.Journal

/-! Finding the cluster that servers should join. Its members are a set of hosts, which is a list in increasing
order. -/

namespace KeyCluster.Members

/-- The set with one host more. -/
def insert (host : Text) : List Text → List Text
  | [] => [host]
  | other :: rest =>
    if host < other then host :: other :: rest
    else if host == other then other :: rest
    else other :: insert host rest

/-- The set of the hosts in a list: each once, in the order of their code points. -/
def ofList (hosts : List Text) : List Text :=
  hosts.foldr insert []

end KeyCluster.Members

namespace KeyCluster.Discovery

/-- The members of the cluster in a report about it, or nothing if it has none. -/
def membersOf {σ : Type} (plane : ControlPlane σ) (host : Text) (report : Report) :
    Action σ (Option (List Text)) := do
  let members := Members.ofList (← Action.ofValue report.hosts)
  if members.isEmpty then
    plane.note (Journal.empty host)
    return none
  plane.note (Journal.found host members report.size)
  return some members

/-- Asks the endpoints in order until one of them is not alone. The members of its cluster are the result,
if it has any; nothing is the result if every endpoint is alone. -/
def probe {σ : Type} (plane : ControlPlane σ) (watched : Bool) :
    List Value → Action σ (Option (List Text))
  | [] => return none
  | endpoint :: rest => do
    let host ← Action.ofValue (Endpoint.hostOf endpoint)
    plane.note (Journal.querying host)
    let report ← plane.status [host] watched
    -- A server that is alone says nothing about the cluster of the others.
    if report.isStandalone then probe plane watched rest
    else membersOf plane host report

/-- The hosts of the cluster that endpoints should join. Where no cluster exists yet, the first endpoint
is elected. -/
def membership {σ : Type} (plane : ControlPlane σ) (endpoints : Value) (watched : Bool) :
    Action σ (List Text) := do
  let items ← Action.ofValue endpoints.parts
  match ← probe plane watched items with
  | some members => return members
  | none =>
    let seed ← Action.ofValue (endpoints.first >>= Endpoint.hostOf)
    plane.note (Journal.elected seed)
    return [seed]

end KeyCluster.Discovery

import KeyCluster.Cluster.Discovery
import KeyCluster.Json.Printer

/-! Bringing servers together in one cluster, and showing the clusters that they report. -/

namespace KeyCluster.Join

/-- Adds to a cluster the endpoints that are not members of it, in order. -/
def addAll {σ : Type} (plane : ControlPlane σ) (members : List Text) (watched : Bool) :
    List Value → Action σ Unit
  | [] => return ()
  | endpoint :: rest => do
    let host ← Action.ofValue (Endpoint.hostOf endpoint)
    -- The members do not change on the way, since each endpoint is added to the same cluster.
    if members.contains host then addAll plane members watched rest
    else
      plane.note (Journal.adding host members)
      plane.add host members watched
      addAll plane members watched rest

/-- Joins the servers at some endpoints into one cluster: an existing one of several nodes if an endpoint
belongs to one, else the one of the first endpoint. A failure ends the joining, and servers added before
it stay in the cluster. -/
def join {σ : Type} (plane : ControlPlane σ) (endpoints : Value) (watched : Bool) : Action σ Unit := do
  -- A single server is a cluster already.
  if (← Action.ofValue endpoints.size) ≤ 1 then return ()
  let members ← Discovery.membership plane endpoints watched
  addAll plane members watched (← Action.ofValue endpoints.parts)

end KeyCluster.Join

namespace KeyCluster.Listing

/-- The line that shows the report of a host, in JSON. -/
def lineOf (host : Text) (report : Report) : Except ValueFault Text :=
  Json.form (.record (("endpoint", .text host) :: report.fields))

/-- Asks the servers at some endpoints for their clusters, in order, and writes a line for each report. A
failure ends the listing. -/
def list {σ : Type} (plane : ControlPlane σ) (write : Text → Action σ Unit) (watched : Bool) :
    List Value → Action σ Unit
  | [] => return ()
  | endpoint :: rest => do
    let host ← Action.ofValue (Endpoint.hostOf endpoint)
    let report ← plane.status [host] watched
    -- The line stands there before the next server is asked.
    write (← Action.ofValue (lineOf host report))
    list plane write watched rest

end KeyCluster.Listing

import KeyCluster.Cluster.Report
import KeyCluster.Failure.Action
import KeyCluster.Log.Entry

/-! The calls through which servers are brought together. -/

namespace KeyCluster

/-- What servers can be asked to do. The flag of a call says whether it is given the context that can
cancel it. -/
structure ControlPlane (σ : Type) where
  /-- Asks the first of some hosts that can be reached about its cluster. -/
  status : (hosts : List Text) → (watched : Bool) → Action σ Report
  /-- Asks the cluster of some hosts to take in another one. -/
  add : (host : Text) → (hosts : List Text) → (watched : Bool) → Action σ Unit
  note : Entry → Action σ Unit

/-- One call of a control plane. -/
inductive Call where
  | status (hosts : List Text) (watched : Bool)
  | add (host : Text) (hosts : List Text) (watched : Bool)
  deriving DecidableEq, Repr

/-- What can be seen of a run: calls, and what the log is told. -/
inductive Event where
  /-- A call, noted before it is made. -/
  | call (call : Call)
  | entry (entry : Entry)

namespace ControlPlane

/-- Notes an event, without touching the state beside it. -/
def record {σ : Type} (event : Event) : Action (σ × List Event) Unit :=
  modify fun (state, events) => (state, events ++ [event])

/-- An action on the state beside a list of events. -/
def beside {σ α : Type} (action : Action σ α) : Action (σ × List Event) α :=
  fun (state, events) =>
    let (result, after) := action state
    (result, after, events)

/-- A control plane that also lists what happens, in order. -/
def recorded {σ : Type} (plane : ControlPlane σ) : ControlPlane (σ × List Event) where
  status hosts watched := do
    record (.call (.status hosts watched))
    beside (plane.status hosts watched)
  add host hosts watched := do
    record (.call (.add host hosts watched))
    beside (plane.add host hosts watched)
  note entry := do
    record (.entry entry)
    beside (plane.note entry)

end ControlPlane

end KeyCluster

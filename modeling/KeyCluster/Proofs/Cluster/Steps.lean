import KeyCluster.Cluster.Join
import KeyCluster.Proofs.Failure.Action

/-! The steps of joining, for endpoints that are texts. -/

namespace KeyCluster

variable {σ : Type} {plane : ControlPlane σ} {watched : Bool}

namespace Discovery

/-- With no endpoints left to ask, nothing was found. -/
theorem probe_nil : probe plane watched [] = pure none :=
  rfl

/-- The first endpoint is asked, and the others only if it is alone. -/
theorem probe_cons (endpoint : Text) (rest : List Text) :
    probe plane watched ((endpoint :: rest).map .text) = (do
      plane.note (Journal.querying (Endpoint.host endpoint))
      let report ← plane.status [Endpoint.host endpoint] watched
      if report.isStandalone then probe plane watched (rest.map .text)
      else membersOf plane (Endpoint.host endpoint) report) :=
  rfl

/-- A report that names hosts ends the search with them. -/
theorem membersOf_of_hosts {host : Text} {report : Report} {names : List Text}
    (named : report.hosts = .ok names) (some : Members.ofList names ≠ []) :
    membersOf plane host report = (do
      plane.note (Journal.found host (Members.ofList names) report.size)
      return Option.some (Members.ofList names)) := by
  -- There are members, so there is nothing to warn about.
  have full : ¬ (Members.ofList names).isEmpty = true := by simpa using some
  simp only [membersOf, named, Action.ofValue, pure_bind, if_neg full]

/-- Without an endpoint there is nobody to elect. -/
theorem membership_nil :
    membership plane (.texts []) watched = throw (.value (.noFirst .list)) :=
  rfl

/-- Of several endpoints, the first one is elected where discovery finds nothing. -/
theorem membership_texts (endpoint : Text) (rest : List Text) :
    membership plane (.texts (endpoint :: rest)) watched = (do
      match ← probe plane watched ((endpoint :: rest).map .text) with
      | some members => return members
      | none =>
        plane.note (Journal.elected (Endpoint.host endpoint))
        return [Endpoint.host endpoint]) :=
  rfl

end Discovery

namespace Join

/-- With no endpoints left, all are in the cluster. -/
theorem addAll_nil (members : List Text) : addAll plane members watched [] = pure () :=
  rfl

/-- An endpoint that is a member is passed over. -/
theorem addAll_cons_of_mem {members : List Text} {endpoint : Text}
    (inside : Endpoint.host endpoint ∈ members) (rest : List Text) :
    addAll plane members watched ((endpoint :: rest).map .text) =
      addAll plane members watched (rest.map .text) := by
  -- The host of a text is known at once, so only the membership is left to decide.
  change (if members.contains (Endpoint.host endpoint) then _ else _) = _
  rw [if_pos (List.contains_iff_mem.mpr inside)]

/-- An endpoint that is no member is added before the next one is looked at. -/
theorem addAll_cons_of_not_mem {members : List Text} {endpoint : Text}
    (outside : Endpoint.host endpoint ∉ members) (rest : List Text) :
    addAll plane members watched ((endpoint :: rest).map .text) = (do
      plane.note (Journal.adding (Endpoint.host endpoint) members)
      plane.add (Endpoint.host endpoint) members watched
      addAll plane members watched (rest.map .text)) := by
  change (if members.contains (Endpoint.host endpoint) then _ else _) = _
  rw [if_neg fun found => outside (List.contains_iff_mem.mp found)]

/-- Fewer than two endpoints need no joining. -/
theorem join_of_length_lt {endpoints : List Text} (few : endpoints.length < 2) :
    join plane (.texts endpoints) watched = pure () := by
  -- Endpoints are counted before anything else is done.
  change (if (endpoints.map Value.text).length ≤ 1 then _ else _) = _
  rw [if_pos (by simp; omega)]

/-- Several endpoints are joined to the cluster that discovery determines. -/
theorem join_of_length_ge {endpoints : List Text} (several : 2 ≤ endpoints.length) :
    join plane (.texts endpoints) watched = (do
      let members ← Discovery.membership plane (.texts endpoints) watched
      addAll plane members watched (endpoints.map .text)) := by
  change (if (endpoints.map Value.text).length ≤ 1 then _ else _) = _
  rw [if_neg (by simp; omega)]
  rfl

end Join

end KeyCluster

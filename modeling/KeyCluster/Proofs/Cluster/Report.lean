import KeyCluster.Cluster.Report
import KeyCluster.Proofs.List.Related

/-! What the hosts of a report are. -/

namespace KeyCluster

/-- Only a text names a host, and it names its own. -/
theorem Endpoint.hostOf_eq_ok {v : Value} {name : Text} :
    Endpoint.hostOf v = .ok name ↔ ∃ endpoint, v = .text endpoint ∧ name = Endpoint.host endpoint := by
  -- Every other shape of value is a fault.
  cases v <;> simp [Endpoint.hostOf, eq_comm]

namespace Report

/-- A report names as many hosts as it has members. -/
theorem length_of_hosts {report : Report} {names : List Text} (named : report.hosts = .ok names) :
    names.length = report.size := by
  -- The walk over the members keeps their number.
  have lengths := (forall₂_of_mapM_ok named).length_eq
  simpa [size] using lengths.symm

/-- A server is alone in its cluster when its report names one host. -/
theorem isStandalone_iff {report : Report} {names : List Text} (named : report.hosts = .ok names) :
    report.isStandalone = true ↔ names.length = 1 := by
  -- The report counts its members, which are as many as the names.
  rw [isStandalone, length_of_hosts named, beq_iff_eq]

/-- A report of texts names their hosts. -/
theorem hosts_of_texts (texts : List Text) :
    ({ up := [], down := texts.map .text } : Report).hosts = .ok (texts.map Endpoint.host) := by
  -- No host is up, so the walk is over the texts alone, and each of them names its host.
  change (texts.map Value.text).mapM Endpoint.hostOf = _
  induction texts with
  | nil => rfl
  | cons text rest ih => rw [List.map_cons, List.mapM_cons, ih]; rfl

/-- A list has its items for parts, even if there are none. -/
theorem optionalParts_list {items : List Value} : optionalParts (some (.list items)) = .ok items := by
  cases items <;> rfl

/-- The hosts that a report names are in normal form. -/
theorem normal_of_hosts {report : Report} {names : List Text} (named : report.hosts = .ok names) :
    ∀ name ∈ names, ∃ endpoint, name = Endpoint.host endpoint := by
  -- Each name was read from a member, which has to be a text.
  intro name inside
  obtain ⟨_, _, read⟩ := exists_left_of_mem (forall₂_of_mapM_ok named) inside
  obtain ⟨endpoint, _, same⟩ := Endpoint.hostOf_eq_ok.mp read
  exact ⟨endpoint, same⟩

end Report

end KeyCluster

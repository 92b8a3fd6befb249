import KeyCluster.Proofs.Cluster.Steps

/-! A joining fails only where something that it asks for fails. -/

namespace KeyCluster

variable {σ : Type} {plane : ControlPlane σ} {watched : Bool}

/-- A control plane on which nothing fails, with reports that name hosts. -/
structure ControlPlane.Answers (plane : ControlPlane σ) : Prop where
  status : ∀ hosts watched state, ∃ report names after,
    (plane.status hosts watched).outcome state = (.ok report, after) ∧ report.hosts = .ok names
  add : ∀ host hosts watched state, ∃ after,
    (plane.add host hosts watched).outcome state = (.ok (), after)
  note : ∀ entry state, ∃ after, (plane.note entry).outcome state = (.ok (), after)

namespace Discovery

/-- Looking at a report that names hosts succeeds. -/
theorem membersOf_of_answers (answers : plane.Answers) {host : Text} {report : Report}
    {names : List Text} (named : report.hosts = .ok names) (state : σ) :
    ∃ found after, (membersOf plane host report).outcome state = (.ok found, after) := by
  -- With members or without, only a message is left, and it is taken.
  by_cases empty : Members.ofList names = []
  · obtain ⟨after, noted⟩ := answers.note (Journal.empty host) state
    refine ⟨none, after, ?_⟩
    simp only [membersOf, named, Action.ofValue, pure_bind, empty, List.isEmpty_nil, if_true]
    exact (Action.outcome_bind_of_ok noted).trans rfl
  · obtain ⟨after, noted⟩ := answers.note (Journal.found host (Members.ofList names) report.size) state
    rw [membersOf_of_hosts named empty]
    exact ⟨some (Members.ofList names), after, (Action.outcome_bind_of_ok noted).trans rfl⟩

/-- Probing succeeds where nothing fails. -/
theorem probe_of_answers (answers : plane.Answers) (endpoints : List Text) (state : σ) :
    ∃ found after, (probe plane watched (endpoints.map .text)).outcome state = (.ok found, after) := by
  -- Each question is answered from the state that the one before it left.
  induction endpoints generalizing state with
  | nil => exact ⟨none, state, rfl⟩
  | cons endpoint rest ih =>
    obtain ⟨told, noted⟩ := answers.note (Journal.querying (Endpoint.host endpoint)) state
    obtain ⟨report, names, asked, answered, named⟩ :=
      answers.status [Endpoint.host endpoint] watched told
    rw [probe_cons, Action.outcome_bind_of_ok noted, Action.outcome_bind_of_ok answered]
    split
    · exact ih asked
    · exact membersOf_of_answers answers named asked

/-- Discovery succeeds where nothing fails. -/
theorem membership_of_answers (answers : plane.Answers) (endpoint : Text) (rest : List Text)
    (state : σ) : ∃ members after,
      (membership plane (.texts (endpoint :: rest)) watched).outcome state = (.ok members, after) := by
  -- Discovery asks nothing beyond what probing asks.
  obtain ⟨found, probed, searched⟩ := probe_of_answers answers (endpoint :: rest) state
  rw [membership_texts, Action.outcome_bind_of_ok searched]
  cases found with
  | some members => exact ⟨members, probed, rfl⟩
  | none =>
    obtain ⟨after, noted⟩ := answers.note (Journal.elected (Endpoint.host endpoint)) probed
    exact ⟨[Endpoint.host endpoint], after, (Action.outcome_bind_of_ok noted).trans rfl⟩

end Discovery

namespace Join

/-- Adding succeeds where nothing fails. -/
theorem addAll_of_answers (answers : plane.Answers) (members endpoints : List Text) (state : σ) :
    ∃ after, (addAll plane members watched (endpoints.map .text)).outcome state = (.ok (), after) := by
  -- Whoever is no member is taken in, from the state that the one before left.
  induction endpoints generalizing state with
  | nil => exact ⟨state, rfl⟩
  | cons endpoint rest ih =>
    by_cases inside : Endpoint.host endpoint ∈ members
    · rw [addAll_cons_of_mem inside]
      exact ih state
    · obtain ⟨told, noted⟩ := answers.note (Journal.adding (Endpoint.host endpoint) members) state
      obtain ⟨added, accepted⟩ := answers.add (Endpoint.host endpoint) members watched told
      rw [addAll_cons_of_not_mem inside, Action.outcome_bind_of_ok noted,
        Action.outcome_bind_of_ok accepted]
      exact ih added

/-- Joining succeeds where nothing fails. -/
theorem join_of_answers (answers : plane.Answers) (endpoints : List Text) (state : σ) :
    ∃ after, (join plane (.texts endpoints) watched).outcome state = (.ok (), after) := by
  -- Fewer than two endpoints ask for nothing at all.
  match endpoints with
  | [] => exact ⟨state, rfl⟩
  | [_] => exact ⟨state, rfl⟩
  | endpoint :: other :: rest =>
    obtain ⟨members, settled, discovered⟩ :=
      Discovery.membership_of_answers answers endpoint (other :: rest) state
    rw [join_of_length_ge (by simp), Action.outcome_bind_of_ok discovered]
    exact addAll_of_answers answers members _ settled

end Join

end KeyCluster

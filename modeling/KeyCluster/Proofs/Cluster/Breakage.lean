import KeyCluster.Log.Record
import KeyCluster.Proofs.Cluster.Trace

/-! The calls of a joining that fails, up to the one that it fails with. -/

namespace KeyCluster

variable {σ β : Type}

/-- Whether no fact of an entry has a name that every record uses itself. -/
def Entry.isFree (entry : Entry) : Bool :=
  entry.fields.all fun field => !Record.reserved.contains field.1

/-- A chronicle in which a call that fails leaves a mark, too. It may speak of the state that is left and of
the failure. -/
structure ControlPlane.Accounts (plane : ControlPlane σ) (chronicle : Chronicle σ β)
    (mark : Call → List β → Prop) (shows : List β → Report → Prop)
    (breaks : Call → List β → σ → Failure → Prop) : Prop extends
    plane.Marks chronicle mark shows where
  /-- What a question for the status leaves that fails. -/
  statusBreaks : ∀ {host watched state failure after},
    (plane.status [host] watched).outcome state = (.error failure, after) → ∃ segment,
      chronicle.Tells segment state after ∧ breaks (.status [host] watched) segment after failure
  /-- What a request to take in a host leaves that fails, as long as there is somebody to ask. -/
  addBreaks : ∀ {host hosts watched state failure after}, hosts ≠ [] →
    (plane.add host hosts watched).outcome state = (.error failure, after) → ∃ segment,
      chronicle.Tells segment state after ∧ breaks (.add host hosts watched) segment after failure

/-- Calls of a plan are made in order until something fails. -/
inductive ControlPlane.Broken (plane : ControlPlane σ) (chronicle : Chronicle σ β)
    (mark : Call → List β → Prop) (breaks : Call → List β → σ → Failure → Prop) (plan : List Call)
    (before after : σ) (failure : Failure) : Prop
  /-- The next call of the plan fails. -/
  | call {done rest : List Call} {call : Call} {segment : List β} {middle : σ}
      (planned : plan = done ++ call :: rest) (made : chronicle.Made mark done before middle)
      (told : chronicle.Tells segment middle after) (broke : breaks call segment after failure)
  /-- The log does not take a message. -/
  | message {done rest : List Call} {entry : Entry} {middle : σ} (planned : plan = done ++ rest)
      (made : chronicle.Made mark done before middle) (free : entry.isFree = true)
      (untold : (plane.note entry).outcome middle = (.error failure, after))

/-- Calls that are made first stand in front of a plan that is broken off. -/
theorem ControlPlane.Broken.behind {plane : ControlPlane σ} {chronicle : Chronicle σ β}
    {mark : Call → List β → Prop} {breaks : Call → List β → σ → Failure → Prop}
    {calls plan : List Call} {before middle after : σ} {failure : Failure}
    (first : chronicle.Made mark calls before middle)
    (broken : plane.Broken chronicle mark breaks plan middle after failure) :
    plane.Broken chronicle mark breaks (calls ++ plan) before after failure := by
  -- Both kinds of end stay what they are, with more behind them.
  cases broken with
  | call planned made told broke =>
    exact .call (by rw [planned, List.append_assoc]) (first.append made) told broke
  | message planned made free untold =>
    exact .message (by rw [planned, List.append_assoc]) (first.append made) free untold

/-- How discovery fails. -/
inductive Discovery.Fails (plane : ControlPlane σ) (chronicle : Chronicle σ β)
    (mark : Call → List β → Prop) (shows : List β → Report → Prop)
    (breaks : Call → List β → σ → Failure → Prop) (watched : Bool) (endpoints : List Text)
    (before after : σ) : Failure → Prop
  /-- A question fails, or a message is not taken. -/
  | broken {failure : Failure} (found : plane.Broken chronicle (Used mark shows) breaks
      (probes watched endpoints) before after failure) :
      Fails plane chronicle mark shows breaks watched endpoints before after failure
  /-- A report names a member by something that is no text. -/
  | misnamed {done rest : List Text} {endpoint : Text} {middle : σ} {segment : List β}
      {report : Report} {fault : ValueFault} (planned : endpoints = done ++ endpoint :: rest)
      (made : chronicle.Made (Used mark shows) (probes watched done) before middle)
      (told : chronicle.Tells segment middle after)
      (marked : mark (.status [Endpoint.host endpoint] watched) segment)
      (shown : shows segment report) (several : report.isStandalone = false)
      (unnamed : report.hosts = .error fault) :
      Fails plane chronicle mark shows breaks watched endpoints before after (.value fault)

variable {plane : ControlPlane σ} {chronicle : Chronicle σ β} {mark : Call → List β → Prop}
  {shows : List β → Report → Prop} {breaks : Call → List β → σ → Failure → Prop} {watched : Bool}
  {before middle after : σ} {failure : Failure}

namespace Discovery

/-- A question that discovery can go by stands in front of what fails behind it. -/
theorem Fails.behind {endpoint : Text} {rest : List Text}
    (first : chronicle.Made (Used mark shows) (probes watched [endpoint]) before middle)
    (fails : Fails plane chronicle mark shows breaks watched rest middle after failure) :
    Fails plane chronicle mark shows breaks watched (endpoint :: rest) before after failure := by
  -- The endpoint in front adds a probe that is made to those that come before the failure.
  cases fails with
  | broken found => exact .broken (found.behind first)
  | @misnamed done more other _ _ _ _ planned made told marked shown several unnamed =>
    have planned : endpoint :: rest = (endpoint :: done) ++ other :: more := by
      rw [planned, List.cons_append]
    exact .misnamed planned (first.append made) told marked shown several unnamed

/-- Looking at the members in a report fails when one of them is no text, or when a message is not taken. -/
theorem membersOf_eq_error {host : Text} {report : Report}
    (ran : (membersOf plane host report).outcome before = (.error failure, after)) :
    (∃ fault, report.hosts = .error fault ∧ failure = .value fault ∧ after = before) ∨
      ∃ names entry, report.hosts = .ok names ∧ entry.isFree = true ∧
        (plane.note entry).outcome before = (.error failure, after) := by
  unfold membersOf at ran
  cases named : report.hosts with
  | error fault =>
    rw [named, Action.outcome_bind_of_error (by rfl)] at ran
    cases ran
    exact .inl ⟨fault, rfl, rfl, rfl⟩
  | ok names =>
    rw [named, Action.outcome_bind_of_ok (by rfl)] at ran
    right
    -- Behind the message nothing else can fail.
    by_cases empty : (Members.ofList names).isEmpty
    · rw [if_pos empty] at ran
      exact ⟨names, _, rfl, rfl, Action.outcome_bind_pure_eq_error.mp ran⟩
    · rw [if_neg empty] at ran
      exact ⟨names, _, rfl, rfl, Action.outcome_bind_pure_eq_error.mp ran⟩

/-- Probing that fails has asked endpoints in order up to the failure. -/
theorem probe_eq_error (accounts : plane.Accounts chronicle mark shows breaks) {endpoints : List Text}
    (ran : (probe plane watched (endpoints.map .text)).outcome before = (.error failure, after)) :
    Fails plane chronicle mark shows breaks watched endpoints before after failure := by
  -- Either something fails at the first endpoint, or the server is alone and the search goes on.
  induction endpoints generalizing before with
  | nil =>
    rw [List.map_nil, probe_nil] at ran
    cases ran
  | cons endpoint rest ih =>
    rw [probe_cons] at ran
    -- The message about the question can fail, the question can, and so can what is made of its report.
    rcases Action.outcome_bind_eq_error.mp ran with untold | ⟨_, told, noted, ran⟩
    · exact .broken (.message (List.nil_append _).symm (.none (chronicle.nil _)) rfl untold)
    have quiet : chronicle.Made (Used mark shows) [] before told := .none (accounts.note noted)
    rcases Action.outcome_bind_eq_error.mp ran with broke | ⟨report, asked, answered, ran⟩
    · obtain ⟨segment, left, broke⟩ := accounts.statusBreaks broke
      exact .broken (.call (List.nil_append _).symm quiet left broke)
    obtain ⟨segment, left, marked, shown⟩ := accounts.status answered
    by_cases alone : report.isStandalone
    · rw [if_pos alone] at ran
      exact (ih ran).behind (quiet.append (.single left ⟨marked, report, shown, .inl alone⟩))
    · rw [if_neg alone] at ran
      rcases membersOf_eq_error ran with ⟨fault, unnamed, rfl, rfl⟩ | ⟨names, entry, named, free, untold⟩
      · exact .misnamed (List.nil_append _).symm quiet left marked shown (by simpa using alone) unnamed
      · exact .broken (.message (List.singleton_append).symm
          (quiet.append (.single left ⟨marked, report, shown, .inr ⟨names, named⟩⟩)) free untold)

/-- Discovery fails only while it probes, or when its choice of the first endpoint is not taken by the log. -/
theorem membership_eq_error (accounts : plane.Accounts chronicle mark shows breaks) {endpoint : Text}
    {rest : List Text}
    (ran : (membership plane (.texts (endpoint :: rest)) watched).outcome before =
      (.error failure, after)) :
    Fails plane chronicle mark shows breaks watched (endpoint :: rest) before after failure := by
  rw [membership_texts] at ran
  -- Either the search itself fails, or it finds nothing and the message about the election fails.
  rcases Action.outcome_bind_eq_error.mp ran with failed | ⟨found, probed, searched, ran⟩
  · exact probe_eq_error accounts failed
  obtain ⟨count, segments, _, _, told, marked, _⟩ := probe_made accounts.toMarks searched
  cases found with
  | some members => cases ran
  | none =>
    -- The endpoints that were not asked are the rest of the plan.
    have planned : probes watched (endpoint :: rest) = probes watched ((endpoint :: rest).take count) ++
        probes watched ((endpoint :: rest).drop count) := by
      rw [probes, probes, probes, ← List.map_append, List.take_append_drop]
    exact .broken (.message planned ⟨segments, told, marked⟩ rfl
      (Action.outcome_bind_pure_eq_error.mp ran))

end Discovery

namespace Join

/-- Adding that fails has asked for outsiders in order up to the failure. -/
theorem addAll_eq_error (accounts : plane.Accounts chronicle mark shows breaks) {members : List Text}
    (some : members ≠ []) {endpoints : List Text}
    (ran : (addAll plane members watched (endpoints.map .text)).outcome before =
      (.error failure, after)) :
    plane.Broken chronicle mark breaks (additions members watched endpoints) before after failure := by
  -- Members are passed over, so nothing fails at them.
  induction endpoints generalizing before with
  | nil =>
    rw [List.map_nil, addAll_nil] at ran
    cases ran
  | cons endpoint rest ih =>
    by_cases inside : Endpoint.host endpoint ∈ members
    · rw [addAll_cons_of_mem inside] at ran
      rw [additions, outsiders_cons_of_mem inside]
      exact ih ran
    · rw [addAll_cons_of_not_mem inside] at ran
      rw [additions, outsiders_cons_of_not_mem inside, List.map_cons]
      -- At an outsider the message can fail, the request can, or something behind both.
      rcases Action.outcome_bind_eq_error.mp ran with untold | ⟨_, told, noted, ran⟩
      · exact .message (List.nil_append _).symm (.none (chronicle.nil _)) rfl untold
      have quiet : chronicle.Made mark [] before told := .none (accounts.note noted)
      rcases Action.outcome_bind_eq_error.mp ran with broke | ⟨_, added, accepted, ran⟩
      · obtain ⟨segment, left, broke⟩ := accounts.addBreaks some broke
        exact .call (List.nil_append _).symm quiet left broke
      obtain ⟨segment, left, marked⟩ := accounts.add accepted
      exact (ih ran).behind (quiet.append (.single left marked))

/-- A joining of several endpoints that fails does so in discovery, or while it asks for the endpoints
outside the membership. -/
theorem join_eq_error (accounts : plane.Accounts chronicle mark shows breaks) {endpoints : List Text}
    (several : 2 ≤ endpoints.length)
    (ran : (join plane (.texts endpoints) watched).outcome before = (.error failure, after)) :
    (Discovery.membership plane (.texts endpoints) watched).outcome before = (.error failure, after) ∧
        Discovery.Fails plane chronicle mark shows breaks watched endpoints before after failure ∨
      ∃ members settled count,
        (Discovery.membership plane (.texts endpoints) watched).outcome before = (.ok members, settled) ∧
        0 < count ∧ chronicle.Made (Discovery.Used mark shows)
          (Discovery.probes watched (endpoints.take count)) before settled ∧
        plane.Broken chronicle mark breaks (additions members watched endpoints) settled after failure := by
  rw [join_of_length_ge several] at ran
  obtain ⟨endpoint, rest, rfl⟩ := List.exists_cons_of_length_pos (by omega : 0 < endpoints.length)
  -- Either the search fails, or it leaves members and a request to take in a host fails.
  rcases Action.outcome_bind_eq_error.mp ran with failed | ⟨members, settled, discovered, ran⟩
  · exact .inl ⟨failed, Discovery.membership_eq_error accounts failed⟩
  · obtain ⟨fit, count, segments, _, positive, told, marked, _⟩ :=
      Discovery.membership_made accounts.toMarks discovered
    exact .inr ⟨members, settled, count, discovered, positive, ⟨segments, told, marked⟩,
      addAll_eq_error accounts fit.nonempty ran⟩

end Join

end KeyCluster

import KeyCluster.Proofs.Cluster.Members
import KeyCluster.Proofs.Cluster.Report
import KeyCluster.Proofs.Cluster.Steps

/-! The calls of a joining that succeeds, told by what each of them leaves behind. -/

namespace KeyCluster

variable {σ β : Type}

/-- What happens between two states, told in pieces. -/
structure Chronicle (σ β : Type) where
  /-- The pieces tell all that happened from one state to another. -/
  Tells : List β → σ → σ → Prop
  nil : ∀ state, Tells [] state state
  append : ∀ {pieces others before middle after}, Tells pieces before middle →
    Tells others middle after → Tells (pieces ++ others) before after

/-- The chronicle of the items that a log grows by. -/
def Chronicle.ofLog (log : σ → List β) : Chronicle σ β where
  Tells items before after := log after = log before ++ items
  nil state := (List.append_nil (log state)).symm
  append first second := by rw [second, first, List.append_assoc]

/-- Calls were made between two states, and nothing else. Each left its mark in the chronicle. -/
def Chronicle.Made (chronicle : Chronicle σ β) (mark : Call → List β → Prop) (calls : List Call)
    (before after : σ) : Prop :=
  -- Segments follow one another in the order of the calls, and nothing stands between them.
  ∃ segments, chronicle.Tells segments.flatten before after ∧ List.Forall₂ mark calls segments

namespace Chronicle.Made

variable {chronicle : Chronicle σ β} {mark : Call → List β → Prop} {calls others : List Call}
  {before middle after : σ}

/-- Where nothing is to be told, no call was made. -/
theorem none (quiet : chronicle.Tells [] before after) : chronicle.Made mark [] before after :=
  ⟨[], quiet, .nil⟩

/-- One call leaves its segment. -/
theorem single {call : Call} {segment : List β} (told : chronicle.Tells segment before after)
    (marked : mark call segment) : chronicle.Made mark [call] before after :=
  ⟨[segment], by simpa using told, .cons marked .nil⟩

/-- What one stretch of calls leaves stands before what the next one leaves. -/
theorem append (first : chronicle.Made mark calls before middle)
    (second : chronicle.Made mark others middle after) :
    chronicle.Made mark (calls ++ others) before after := by
  -- Segments of the second stretch follow those of the first, call by call.
  obtain ⟨segments, told, marked⟩ := first
  obtain ⟨further, toldFurther, markedFurther⟩ := second
  refine ⟨segments ++ further, ?_, List.rel_append marked markedFurther⟩
  rw [List.flatten_append]
  exact chronicle.append told toldFurther

end Chronicle.Made

/-- A chronicle in which every call that succeeds leaves its mark, and messages leave none. A report that was
received is shown in it. -/
structure ControlPlane.Marks (plane : ControlPlane σ) (chronicle : Chronicle σ β)
    (mark : Call → List β → Prop) (shows : List β → Report → Prop) : Prop where
  status : ∀ {hosts watched state report after},
    (plane.status hosts watched).outcome state = (.ok report, after) → ∃ segment,
      chronicle.Tells segment state after ∧ mark (.status hosts watched) segment ∧ shows segment report
  add : ∀ {host hosts watched state after},
    (plane.add host hosts watched).outcome state = (.ok (), after) → ∃ segment,
      chronicle.Tells segment state after ∧ mark (.add host hosts watched) segment
  note : ∀ {entry state after}, (plane.note entry).outcome state = (.ok (), after) →
    chronicle.Tells [] state after

/-- What discovery settles on: at least one host, each once and in order, all in normal form. -/
structure IsMembership (members : List Text) : Prop where
  nonempty : members ≠ []
  /-- Hosts stand in the order of their code points, each once. -/
  increasing : members.Pairwise (· < ·)
  /-- Each is the host of an endpoint. -/
  normal : ∀ member ∈ members, ∃ endpoint, member = Endpoint.host endpoint

/-- The questions for the status of some endpoints. -/
def Discovery.probes (watched : Bool) (endpoints : List Text) : List Call :=
  -- Each question is put to one host alone.
  endpoints.map fun endpoint => .status [Endpoint.host endpoint] watched

/-- The hosts among some endpoints that are not members of a cluster yet, as often as they occur. -/
def Join.outsiders (members endpoints : List Text) : List Text :=
  -- The membership is never extended while hosts are added, so a host that occurs twice stays twice.
  (endpoints.map Endpoint.host).filter (· ∉ members)

/-- The requests to take in the endpoints that are not members yet. -/
def Join.additions (members : List Text) (watched : Bool) (endpoints : List Text) : List Call :=
  (outsiders members endpoints).map fun host => .add host members watched

/-- The members of a cluster that one of some segments shows a report of. -/
def Discovery.Found (shows : List β → Report → Prop) (segments : List (List β))
    (members : List Text) : Prop :=
  -- A report can name a host twice, while the members are each listed once.
  members ≠ [] ∧ ∃ segment ∈ segments, ∃ report names,
    shows segment report ∧ report.hosts = .ok names ∧ members = Members.ofList names

/-- A report that discovery can go by: its server is alone, or all of its members are named by texts. -/
def Report.IsUsable (report : Report) : Prop :=
  -- Members of a server that is alone are never looked at.
  report.isStandalone = true ∨ ∃ names, report.hosts = .ok names

/-- The mark of a question whose answer discovery could go by. -/
def Discovery.Used (mark : Call → List β → Prop) (shows : List β → Report → Prop) (call : Call)
    (segment : List β) : Prop :=
  mark call segment ∧ ∃ report, shows segment report ∧ report.IsUsable

variable {plane : ControlPlane σ} {chronicle : Chronicle σ β} {mark : Call → List β → Prop}
  {shows : List β → Report → Prop} {watched : Bool}

namespace Discovery

/-- The members in a report are its hosts, and looking at them only tells the log something. -/
theorem membersOf_eq_ok {host : Text} {report : Report} {found : Option (List Text)}
    {state after : σ} (ran : (membersOf plane host report).outcome state = (.ok found, after)) :
    ∃ names entry, report.hosts = .ok names ∧ (plane.note entry).outcome state = (.ok (), after) ∧
      ∀ members, found = some members → members ≠ [] ∧ members = Members.ofList names := by
  -- Both when there are members and when there are none, one message is all that follows.
  unfold membersOf at ran
  obtain ⟨names, _, read, ran⟩ := Action.outcome_bind_eq_ok.mp ran
  obtain ⟨named, rfl⟩ := Action.outcome_ofValue_eq_ok.mp read
  refine ⟨names, ?_⟩
  by_cases empty : (Members.ofList names).isEmpty
  · simp only [empty, if_true] at ran
    obtain ⟨_, _, noted, ended⟩ := Action.outcome_bind_eq_ok.mp ran
    cases ended
    exact ⟨_, named, noted, by simp⟩
  · simp only [empty, if_false, Bool.false_eq_true] at ran
    obtain ⟨_, _, noted, ended⟩ := Action.outcome_bind_eq_ok.mp ran
    cases ended
    refine ⟨_, named, noted, fun members same => ?_⟩
    cases same
    exact ⟨by simpa using empty, rfl⟩

/-- Members that were found are a membership. -/
theorem Found.isMembership {segments : List (List β)} {members : List Text}
    (found : Found shows segments members) : IsMembership members := by
  -- Listing the names orders them, and each of them is the host of what was reported.
  obtain ⟨nonempty, _, _, _, names, _, named, rfl⟩ := found
  refine ⟨nonempty, Members.ofList_increasing names, fun member inside => ?_⟩
  exact Report.normal_of_hosts named member (Members.mem_ofList.mp inside)

/-- Members that were found stay so when there are more segments. -/
theorem Found.mono {segments more : List (List β)} {members : List Text}
    (found : Found shows segments members) (inside : segments ⊆ more) : Found shows more members := by
  obtain ⟨nonempty, segment, isSegment, rest⟩ := found
  exact ⟨nonempty, segment, inside isSegment, rest⟩

/-- Probing asks endpoints in order, each once, up to the one that ends the search, and can go by every
answer. What is found is the cluster that one of the answers shows. -/
theorem probe_made (marks : plane.Marks chronicle mark shows) {endpoints : List Text}
    {found : Option (List Text)} {state after : σ}
    (ran : (probe plane watched (endpoints.map .text)).outcome state = (.ok found, after)) :
    ∃ count segments, count ≤ endpoints.length ∧ (endpoints ≠ [] → 0 < count) ∧
      chronicle.Tells segments.flatten state after ∧
      List.Forall₂ (Used mark shows) (probes watched (endpoints.take count)) segments ∧
      ∀ members, found = some members → Found shows segments members := by
  -- The search either ends with the first endpoint or goes on behind it.
  induction endpoints generalizing state with
  | nil =>
    rw [List.map_nil, probe_nil] at ran
    cases ran
    exact ⟨0, [], by simp, by simp, chronicle.nil _, .nil, by simp⟩
  | cons endpoint rest ih =>
    rw [probe_cons] at ran
    obtain ⟨_, told, noted, ran⟩ := Action.outcome_bind_eq_ok.mp ran
    obtain ⟨report, asked, answered, ran⟩ := Action.outcome_bind_eq_ok.mp ran
    obtain ⟨segment, left, marked, shown⟩ := marks.status answered
    -- The message in front adds nothing to the segment of the question.
    have first : chronicle.Tells segment state asked := chronicle.append (marks.note noted) left
    by_cases alone : report.isStandalone
    · -- The first segment is put in front of those that the rest of the search leaves.
      rw [if_pos alone] at ran
      obtain ⟨count, segments, within, _, behind, marks, settled⟩ := ih ran
      refine ⟨count + 1, segment :: segments, by simpa using within, by simp,
        chronicle.append first behind, .cons ⟨marked, report, shown, .inl alone⟩ marks,
        fun members same => ?_⟩
      exact (settled members same).mono (List.subset_cons_self _ _)
    · rw [if_neg alone] at ran
      -- The report decides, so there is one question and one segment.
      obtain ⟨names, _, named, noted, settled⟩ := membersOf_eq_ok ran
      refine ⟨1, [segment], by simp, by simp, ?_,
        .cons ⟨marked, report, shown, .inr ⟨names, named⟩⟩ .nil, fun members same => ?_⟩
      · simpa using chronicle.append first (marks.note noted)
      · obtain ⟨nonempty, listed⟩ := settled members same
        exact ⟨nonempty, segment, by simp, report, names, shown, named, listed⟩

/-- What discovery settles on was found by probing, or is the first endpoint in its place. -/
theorem membership_eq_ok {endpoint : Text} {rest members : List Text} {state after : σ}
    (ran : (membership plane (.texts (endpoint :: rest)) watched).outcome state =
      (.ok members, after)) :
    ∃ found probed, (probe plane watched ((endpoint :: rest).map .text)).outcome state =
        (.ok found, probed) ∧
      (found = some members ∧ probed = after ∨
        found = none ∧ members = [Endpoint.host endpoint] ∧
          (plane.note (Journal.elected (Endpoint.host endpoint))).outcome probed = (.ok (), after)) := by
  rw [membership_texts] at ran
  obtain ⟨found, probed, searched, ran⟩ := Action.outcome_bind_eq_ok.mp ran
  refine ⟨found, probed, searched, ?_⟩
  -- Only when nothing was found, one more message tells of the election.
  cases found with
  | some names =>
    cases ran
    exact .inl ⟨rfl, rfl⟩
  | none =>
    obtain ⟨_, _, noted, ended⟩ := Action.outcome_bind_eq_ok.mp ran
    cases ended
    exact .inr ⟨rfl, rfl, noted⟩

/-- Discovery makes no other calls than those of probing, and settles on a cluster that was found, or on
the first endpoint. -/
theorem membership_made (marks : plane.Marks chronicle mark shows) {endpoint : Text}
    {rest members : List Text} {state after : σ}
    (ran : (membership plane (.texts (endpoint :: rest)) watched).outcome state =
      (.ok members, after)) :
    IsMembership members ∧ ∃ count segments, count ≤ (endpoint :: rest).length ∧ 0 < count ∧
      chronicle.Tells segments.flatten state after ∧
      List.Forall₂ (Used mark shows) (probes watched ((endpoint :: rest).take count)) segments ∧
      (Found shows segments members ∨ members = [Endpoint.host endpoint]) := by
  -- Electing the first endpoint is told to the log, but it is no call.
  obtain ⟨found, probed, searched, settled⟩ := membership_eq_ok ran
  obtain ⟨count, segments, within, positive, told, marked, listed⟩ := probe_made marks searched
  rcases settled with ⟨some, rfl⟩ | ⟨_, rfl, noted⟩
  · exact ⟨(listed members some).isMembership, count, segments, within, positive (by simp), told, marked,
      .inl (listed members some)⟩
  · -- A single host is a membership of its own.
    refine ⟨⟨by simp, List.pairwise_singleton _ _, by simp⟩, count, segments, within, positive (by simp),
      ?_, marked, .inr rfl⟩
    simpa using chronicle.append told (marks.note noted)

end Discovery

namespace Join

/-- A member among the endpoints is no outsider. -/
theorem outsiders_cons_of_mem {members : List Text} {endpoint : Text}
    (inside : Endpoint.host endpoint ∈ members) (rest : List Text) :
    outsiders members (endpoint :: rest) = outsiders members rest := by
  rw [outsiders, List.map_cons, List.filter_cons_of_neg (by simpa using inside), outsiders]

/-- Every other endpoint is one each time it occurs. -/
theorem outsiders_cons_of_not_mem {members : List Text} {endpoint : Text}
    (outside : Endpoint.host endpoint ∉ members) (rest : List Text) :
    outsiders members (endpoint :: rest) = Endpoint.host endpoint :: outsiders members rest := by
  rw [outsiders, List.map_cons, List.filter_cons_of_pos (by simpa using outside), outsiders]

/-- The outsiders among some endpoints are the hosts of endpoints that are no members. -/
theorem mem_outsiders {members endpoints : List Text} {host : Text} :
    host ∈ outsiders members endpoints ↔
      (∃ endpoint ∈ endpoints, Endpoint.host endpoint = host) ∧ host ∉ members := by
  simp [outsiders]

/-- Adding walks the endpoints in order and asks for those that are not members. -/
theorem addAll_made (marks : plane.Marks chronicle mark shows) {members endpoints : List Text}
    {state after : σ}
    (ran : (addAll plane members watched (endpoints.map .text)).outcome state = (.ok (), after)) :
    chronicle.Made mark (additions members watched endpoints) state after := by
  -- Members are passed over, and of the others each is asked for where it stands.
  induction endpoints generalizing state with
  | nil =>
    rw [List.map_nil, addAll_nil] at ran
    cases ran
    exact .none (chronicle.nil _)
  | cons endpoint rest ih =>
    by_cases inside : Endpoint.host endpoint ∈ members
    · rw [addAll_cons_of_mem inside] at ran
      rw [additions, outsiders_cons_of_mem inside]
      exact ih ran
    · rw [addAll_cons_of_not_mem inside] at ran
      obtain ⟨_, told, noted, ran⟩ := Action.outcome_bind_eq_ok.mp ran
      obtain ⟨_, added, accepted, ran⟩ := Action.outcome_bind_eq_ok.mp ran
      obtain ⟨segment, left, marked⟩ := marks.add accepted
      have first : chronicle.Tells segment state added := chronicle.append (marks.note noted) left
      rw [additions, outsiders_cons_of_not_mem inside, List.map_cons]
      exact (Chronicle.Made.single first marked).append (ih ran)

/-- A joining of several endpoints that succeeds first settles on a membership, probing some endpoints
in front, and then asks for the endpoints outside it. -/
theorem join_made (marks : plane.Marks chronicle mark shows) {endpoints : List Text}
    (several : 2 ≤ endpoints.length) {state after : σ}
    (ran : (join plane (.texts endpoints) watched).outcome state = (.ok (), after)) :
    ∃ members settled count segments,
      (Discovery.membership plane (.texts endpoints) watched).outcome state = (.ok members, settled) ∧
      IsMembership members ∧ 0 < count ∧ count ≤ endpoints.length ∧
      chronicle.Tells segments.flatten state settled ∧
      List.Forall₂ mark (Discovery.probes watched (endpoints.take count)) segments ∧
      (Discovery.Found shows segments members ∨
        ∃ endpoint ∈ endpoints, members = [Endpoint.host endpoint]) ∧
      chronicle.Made mark (additions members watched endpoints) settled after := by
  -- Discovery and adding each have an account of their own. They are put one behind the other.
  rw [join_of_length_ge several] at ran
  obtain ⟨members, settled, discovered, ran⟩ := Action.outcome_bind_eq_ok.mp ran
  obtain ⟨endpoint, rest, rfl⟩ := List.exists_cons_of_length_pos (by omega : 0 < endpoints.length)
  obtain ⟨fit, count, segments, within, positive, told, marked, source⟩ :=
    Discovery.membership_made marks discovered
  exact ⟨members, settled, count, segments, discovered, fit, positive, within, told,
    marked.imp fun _ _ => And.left, source.imp_right fun elected => ⟨endpoint, by simp, elected⟩,
    addAll_made marks ran⟩

end Join

end KeyCluster

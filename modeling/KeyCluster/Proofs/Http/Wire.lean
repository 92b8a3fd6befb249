import KeyCluster.Proofs.Cluster.Endpoint
import KeyCluster.Proofs.Http.Attempt
import KeyCluster.Proofs.Value.Evaluation
import Mathlib.Data.List.Permutation

/-! The exchanges of a joining that succeeds, from the first question to the last host taken in. -/

namespace KeyCluster

variable {σ : Type} {client : Client} {network : Network σ} {watched : Bool}

/-- An exchange is a question for the status, and a report is the answer. -/
def Exchange.Reports (exchange : Exchange) (report : Report) : Prop :=
  exchange.request.method = "GET" ∧ ∃ response,
    exchange.outcome = .ok response ∧ Client.reportOf response = .ok report

namespace Client

/-- The body of a request to take in a host. -/
def naming (host : Text) : Option Value :=
  some (.record [("host", .text host)])

/-- The exchanges of a call that succeeds. -/
def mark : Call → List Exchange → Prop
  -- The client takes the hosts of what it is given, even if these are hosts already.
  | .status hosts _ => Failover "GET" statusPath none (hosts.map Endpoint.host)
  | .add host hosts _ => Failover "POST" addPath (naming (Endpoint.host host)) (hosts.map Endpoint.host)

/-- A report was received in some exchanges. -/
def shows (run : List Exchange) (report : Report) : Prop :=
  ∃ exchange ∈ run, exchange.Reports report

/-- After an answer, what its body is read as decides how a question for the status ends. -/
theorem outcome_status {hosts : Value} {response : Response} {world after : World σ}
    (answered : (client.ask network "GET" statusPath none hosts watched).outcome world =
      (.ok response, after)) :
    (client.status network hosts watched).outcome world = (reportOf response, after) := by
  rw [status, Action.outcome_bind_of_ok answered]
  cases reportOf response <;> rfl

/-- A question for the status goes to hosts in order, and the first one that can be reached reports. -/
theorem status_eq_ok {hosts : List Text} {report : Report} {world after : World σ}
    (ran : (client.status network (.texts hosts) watched).outcome world = (.ok report, after)) :
    ∃ dispatches, network.Passes dispatches world after ∧
      (∀ dispatch ∈ dispatches, dispatch.InTime watched client.timeout) ∧
      Failover "GET" statusPath none (hosts.map Endpoint.host) (dispatches.map (Dispatch.exchange network)) ∧
      ∃ last ∈ dispatches.getLast?, (last.exchange network).Reports report := by
  obtain ⟨response, _, asked, _⟩ := Action.outcome_bind_eq_ok.mp ran
  -- The body of the answer is read, which is no exchange.
  obtain ⟨read, rfl⟩ := Prod.mk.inj ((outcome_status asked).symm.trans ran)
  obtain ⟨dispatches, passed, punctual, failover, last, isLast, answered⟩ := ask_eq_ok asked
  have inside := List.mem_map_of_mem (f := Dispatch.exchange network) (List.mem_of_mem_getLast? isLast)
  obtain ⟨_, _, question, _⟩ := failover.exists_asks inside
  exact ⟨dispatches, passed, punctual, failover, last, isLast, question, response, answered, read⟩

/-- A request to take in a host goes to other hosts in order, and the first one that can be reached accepts. -/
theorem add_eq_ok {host : Text} {hosts : List Text} {world after : World σ}
    (ran : (client.add network (.text host) (.texts hosts) watched).outcome world = (.ok (), after)) :
    ∃ dispatches, network.Passes dispatches world after ∧
      (∀ dispatch ∈ dispatches, dispatch.InTime watched client.timeout) ∧
      Failover "POST" addPath (naming (Endpoint.host host)) (hosts.map Endpoint.host)
        (dispatches.map (Dispatch.exchange network)) := by
  -- What the accepting host says does not matter, as long as it is no error.
  obtain ⟨named, _, read, asking⟩ := Action.outcome_bind_eq_ok.mp ran
  cases read
  obtain ⟨response, asked⟩ := Action.outcome_discard_eq_ok.mp asking
  obtain ⟨dispatches, passed, punctual, failover, _⟩ := ask_eq_ok asked
  exact ⟨dispatches, passed, punctual, failover⟩

/-- Calls to servers leave their exchanges in the chronicle of the network. -/
theorem plane_marks (client : Client) (network : Network σ) :
    (client.plane network).Marks network.chronicle mark shows where
  -- A status was read from the last exchange of its call.
  status answered := by
    obtain ⟨dispatches, passed, _, failover, last, isLast, reports⟩ := status_eq_ok answered
    exact ⟨_, passed.tells, failover, _, List.mem_map_of_mem (List.mem_of_mem_getLast? isLast), reports⟩
  add accepted := by
    obtain ⟨dispatches, passed, _, failover⟩ := add_eq_ok accepted
    exact ⟨_, passed.tells, failover⟩
  note noted := (World.idle_note noted).tells network

end Client

/-- Questions to one host each are one exchange each. -/
theorem Discovery.exchanges_of_probes {endpoints : List Text} {segments : List (List Exchange)}
    (plain : ∀ endpoint ∈ endpoints, ¬ Endpoint.scheme <+: Endpoint.host endpoint)
    (marked : List.Forall₂ Client.mark (probes watched endpoints) segments) :
    List.Forall₂ (fun endpoint exchange =>
        exchange.Asks "GET" (Endpoint.host endpoint) Client.statusPath none ∧ exchange.Accepted)
      endpoints segments.flatten := by
  -- The segments of the questions are one exchange long, so together they are a list of exchanges.
  induction endpoints generalizing segments with
  | nil =>
    cases marked
    exact .nil
  | cons endpoint rest ih =>
    obtain ⟨here, behind⟩ := List.forall_mem_cons.mp plain
    cases marked with
    | cons first others =>
      -- The host that is asked is a host already, so it stays the same in the address.
      change Failover "GET" _ _ [Endpoint.host (Endpoint.host endpoint)] _ at first
      rw [Endpoint.host_host here] at first
      obtain ⟨exchange, rfl, asks, accepted⟩ := first.of_single
      exact .cons ⟨asks, accepted⟩ (ih behind others)

/-- Requests to take in the outsiders go to the members. -/
theorem Join.exchanges_of_additions {members endpoints : List Text} {segments : List (List Exchange)}
    (plain : ∀ endpoint ∈ endpoints, ¬ Endpoint.scheme <+: Endpoint.host endpoint)
    (normal : members.map Endpoint.host = members)
    (marked : List.Forall₂ Client.mark (additions members watched endpoints) segments) :
    List.Forall₂ (fun host => Failover "POST" Client.addPath (Client.naming host) members)
      (outsiders members endpoints) segments := by
  -- Both the host that is named and those that are asked are in normal form already.
  rw [additions, List.forall₂_map_left_iff] at marked
  have named : ∀ host ∈ outsiders members endpoints, Endpoint.host host = host := by
    intro host inside
    obtain ⟨⟨endpoint, isEndpoint, rfl⟩, _⟩ := mem_outsiders.mp inside
    exact Endpoint.host_host (plain endpoint isEndpoint)
  refine ((List.forall₂_and_left _ _).mpr ⟨named, marked⟩).imp ?_
  rintro host run ⟨same, failover⟩
  change Failover "POST" _ (Client.naming (Endpoint.host host)) (members.map Endpoint.host) run at failover
  rwa [same, normal] at failover

/--
The exchanges of a joining that succeeds. Hosts in endpoints and in reports are those without a second
scheme.

First comes a question for the status to each of the endpoints up to some place, and each is answered
without an error. Then each endpoint outside the membership is taken in, once for each time it occurs. For
this, members are asked in order up to the first that can be reached, which accepts.
-/
theorem Join.join_exchanges (client : Client) (network : Network σ) {endpoints : List Text}
    (several : 2 ≤ endpoints.length)
    (plain : ∀ endpoint ∈ endpoints, ¬ Endpoint.scheme <+: Endpoint.host endpoint) (watched : Bool)
    {world after : World σ}
    (reported : ∀ exchanges, network.chronicle.Tells exchanges world after →
      ∀ exchange ∈ exchanges, ∀ report names, exchange.Reports report → report.hosts = .ok names →
        ∀ name ∈ names, ¬ Endpoint.scheme <+: name)
    (ran : (join (client.plane network) (.texts endpoints) watched).outcome world = (.ok (), after)) :
    ∃ members settled count gets posts,
      (Discovery.membership (client.plane network) (.texts endpoints) watched).outcome world =
        (.ok members, settled) ∧
      IsMembership members ∧ 0 < count ∧ count ≤ endpoints.length ∧
      network.chronicle.Tells (gets ++ posts.flatten) world after ∧
      List.Forall₂ (fun endpoint exchange =>
          exchange.Asks "GET" (Endpoint.host endpoint) Client.statusPath none ∧ exchange.Accepted)
        (endpoints.take count) gets ∧
      List.Forall₂ (fun host => Failover "POST" Client.addPath (Client.naming host) members)
        (outsiders members endpoints) posts ∧
      (∀ run ∈ posts, run.countP Exchange.isAnswered = 1) ∧
      ∀ exchange ∈ posts.flatten, ∃ member ∈ members, ∃ host ∉ members,
        exchange.Asks "POST" member Client.addPath (Client.naming host) := by
  obtain ⟨members, settled, count, segments, discovered, fit, positive, within, asked, probes, source,
    posts, added, additions⟩ := join_made (client.plane_marks network) several ran
  have told := network.chronicle.append asked added
  -- Members are hosts of endpoints or of reports, so none of them has a second scheme.
  have clean : ∀ member ∈ members, ¬ Endpoint.scheme <+: member := by
    rcases source with ⟨_, segment, isSegment, report, names, ⟨exchange, inside, reports⟩, named, rfl⟩ |
      ⟨endpoint, isEndpoint, rfl⟩
    · -- The report was received in one of the exchanges.
      intro member isMember
      have isExchange := List.mem_append_left posts.flatten (List.mem_flatten_of_mem isSegment inside)
      exact reported _ told exchange isExchange report names reports named member
        (Members.mem_ofList.mp isMember)
    · simpa using plain endpoint isEndpoint
  -- So the client asks them under their own names.
  have same : ∀ member ∈ members, Endpoint.host member = member := by
    intro member isMember
    obtain ⟨endpoint, rfl⟩ := fit.normal member isMember
    exact Endpoint.host_host (clean _ isMember)
  have normal : members.map Endpoint.host = members := by
    rw [List.map_congr_left same, List.map_id']
  have failovers := exchanges_of_additions plain normal additions
  refine ⟨members, settled, count, segments.flatten, posts, discovered, fit, positive, within, told,
    Discovery.exchanges_of_probes (fun endpoint inside => plain endpoint (List.mem_of_mem_take inside))
      probes, failovers, fun run inside => ?_, fun exchange inside => ?_⟩
  · obtain ⟨_, _, failover⟩ := exists_left_of_mem failovers inside
    exact failover.countP_answered
  · obtain ⟨run, isRun, inside⟩ := List.mem_flatten.mp inside
    obtain ⟨host, isOutsider, failover⟩ := exists_left_of_mem failovers isRun
    obtain ⟨member, isMember, asks⟩ := failover.exists_asks inside
    exact ⟨member, isMember, host, (mem_outsiders.mp isOutsider).2, asks⟩

/-- The body of a report of two servers. -/
def Network.pairBody : Text :=
  "\x7b\"nodes_down\": [\"b\", \"a\"]\x7d"

/-- Two servers of one cluster, the first of which cannot be reached when it should take in a host. -/
def Network.pair (delay : Float) : Network Unit where
  answer request _ :=
    -- The answer to every other request is a report.
    let outcome := if request.url = "https://a/v1/cluster/add" then
        .error (.reported (.transport .connection) "refused" {})
      else .ok { status := 200, body := pairBody }
    ({ advance := delay, cancels := false, outcome }, ())

/-- The body names the two servers. -/
theorem Network.report_pairBody (status : Int) :
    Client.reportOf { status, body := pairBody } = .ok { up := [], down := [.text "b", .text "a"] } := by
  have read : Json.read Network.pairBody.chars =
      .ok (.map [(.text "nodes_down", .list [.text "b", .text "a"])]) :=
    Value.eq_ok_of_isSurely (by decide +kernel)
  simp only [Client.reportOf, read]
  rfl

/-- A world in which nobody listens to the log. -/
def World.silent (time : Float) : World Unit where
  clock := { start := time, epoch := time }
  servers := ()
  elapsed := time
  hears _ _ := false

/-- A client that sends requests without credentials. -/
def Client.bare : Client where
  credentials := { trust := .system, certificate := none, authorization := none }
  timeout := .int 5

/-- A third server is taken in by the second one. -/
theorem Join.outcome_pair (delay : Float) : ∃ after,
    (join (Client.bare.plane (Network.pair delay)) (.texts ["https://a/", "c"]) false).outcome
        (World.silent delay) = (.ok (), after) ∧
      after.sent.map Request.url = ([
        "https://a/v1/cluster/status", "https://a/v1/cluster/add", "https://b/v1/cluster/add"] : List Text) := by
  let told := (World.silent delay).record (.logged (delay + delay) (Journal.querying "a"))
  have noted : ((Client.bare.plane (Network.pair delay)).note (Journal.querying "a")).outcome
      (World.silent delay) = (.ok (), told) := rfl
  -- The body of the answer is read apart from the rest, which is only computed.
  have asked : ((Client.bare.plane (Network.pair delay)).status ["a"] false).outcome told =
      (.ok { up := [], down := [.text "b", .text "a"] },
        ((Client.bare.ask (Network.pair delay) "GET" Client.statusPath none (.texts ["a"]) false).outcome
          told).2) := by
    change (Client.status _ _ _ _).outcome _ = _
    rw [Client.status, Action.outcome_bind_of_ok (by rfl)]
    simp only [Network.report_pairBody]
    rfl
  rw [join_of_length_ge (by decide), Discovery.membership_texts, Discovery.probe_cons]
  simp only [bind_assoc, show Endpoint.host "https://a/" = "a" by decide]
  rw [Action.outcome_bind_of_ok noted, Action.outcome_bind_of_ok asked]
  exact ⟨_, rfl, rfl⟩

/-- No server of the pair reports a host with a scheme. -/
theorem Network.pair_reports {delay : Float} {exchanges : List Exchange} {world after : World Unit}
    (told : (Network.pair delay).chronicle.Tells exchanges world after) {exchange : Exchange}
    (inside : exchange ∈ exchanges) {report : Report} {names : List Text}
    (reports : exchange.Reports report) (named : report.hosts = .ok names) :
    ∀ name ∈ names, ¬ Endpoint.scheme <+: name := by
  obtain ⟨_, response, answered, read⟩ := reports
  obtain ⟨servers, outcome⟩ := told.1.exists_answer inside
  rw [answered] at outcome
  -- Whatever is answered without a failure has the same body.
  have same : response = { status := 200, body := pairBody } := by
    simp only [Network.pair] at outcome
    split at outcome <;> cases outcome
    rfl
  rw [same, report_pairBody] at read
  cases read
  cases named
  decide

/-- The first server of the pair is asked, and the third one is named to both. -/
theorem Join.join_exchanges_pair : ∃ after gets, ∃ posts : List (List Exchange),
    (join (Client.bare.plane (Network.pair 0)) (.texts ["https://a/", "c"]) false).outcome
        (World.silent 0) = (.ok (), after) ∧
      (Network.pair 0).chronicle.Tells (gets ++ posts.flatten) (World.silent 0) after ∧
      (∀ run ∈ posts, run.countP Exchange.isAnswered = 1) ∧
      after.sent.map Request.url = ([
        "https://a/v1/cluster/status", "https://a/v1/cluster/add", "https://b/v1/cluster/add"] : List Text) := by
  obtain ⟨after, ran, sent⟩ := outcome_pair 0
  obtain ⟨_, _, _, gets, posts, _, _, _, _, told, _, _, answers, _⟩ :=
    join_exchanges Client.bare (Network.pair 0) (by decide) (by decide) false
      (fun _ told _ inside _ _ => Network.pair_reports told inside) ran
  exact ⟨after, gets, posts, ran, told, answers, sent⟩

end KeyCluster

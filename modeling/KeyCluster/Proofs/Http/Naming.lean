import KeyCluster.Proofs.Cluster.Endpoint
import KeyCluster.Proofs.Config.Expansion
import KeyCluster.Proofs.Config.Validity
import KeyCluster.Proofs.Http.Acts
import KeyCluster.Proofs.Http.Wire

/-! Under which names a joining speaks of the endpoints of a configuration. -/

namespace KeyCluster

variable {σ : Type}

/-- What a request of a joining has to do with an endpoint, which has a name there. It is said which
membership the cluster can have. -/
inductive Request.Concerns (isMembership : List Text → Prop) (endpoint name : Text) (request : Request) : Prop
  /-- The endpoint is asked about its cluster. -/
  | question (method : request.method = "GET") (body : request.body = none)
    (url : request.url = Endpoint.scheme ++ name ++ Client.statusPath)
  /-- A member is asked to take in the endpoint, whose host is none of the members. -/
  | addition {members : List Text} {member : Text} (isMembers : isMembership members)
    (outside : Endpoint.host endpoint ∉ members) (isMember : member ∈ members)
    (method : request.method = "POST") (body : request.body = Client.naming name)
    (url : request.url = Endpoint.scheme ++ Endpoint.host member ++ Client.addPath)

/-- Where requests are sent, each one speaks of an endpoint by the host of its host. -/
def Act.Names (isMembership : List Text → Prop) (endpoints : List Text) : Act → Prop
  | .sent request => ∃ endpoint ∈ endpoints,
    request.Concerns isMembership endpoint (Endpoint.host (Endpoint.host endpoint))
  | .logged _ _ | .printed _ => True

/-- Discovery finds some members, if it begins in a state of the world. -/
def Discovery.Finds (plane : ControlPlane (World σ)) (endpoints : Value) (watched : Bool) (world : World σ)
    (members : List Text) : Prop :=
  ∃ settled, (membership plane endpoints watched).outcome world = (.ok members, settled)

namespace Client

variable {client : Client} {network : Network σ} {watched : Bool} {world after : World σ}
  {result : Except Failure Unit}

/-- Joining hands hosts to the client, and the client takes their hosts once more. -/
theorem names_plane (client : Client) (network : Network σ) (watched : Bool)
    (isMembership : List Text → Prop) (endpoints : List Text) :
    (client.plane network).FollowsFor watched (endpoints.map .text) isMembership
      (World.Adds (Act.Names isMembership endpoints)) where
  status endpoint inside host named := by
    obtain ⟨endpoint, isEndpoint, rfl⟩ := List.mem_map.mp inside
    cases named
    refine follows_status (follows_ask (fun _ _ _ => trivial) fun items listed request isFor => ?_)
    -- The only host that is asked is that of the endpoint.
    obtain ⟨_, within, _, again, url⟩ := isFor.url
    cases listed
    obtain rfl := List.mem_singleton.mp within
    cases again
    exact ⟨endpoint, isEndpoint, .question isFor.method isFor.body url⟩
  add endpoint inside host named members isMembers outside := by
    obtain ⟨endpoint, isEndpoint, rfl⟩ := List.mem_map.mp inside
    cases named
    refine follows_add fun name again =>
      follows_ask (fun _ _ _ => trivial) fun items listed request isFor => ?_
    cases again
    -- The hosts that are asked are those of the members.
    obtain ⟨_, within, _, hosted, url⟩ := isFor.url
    cases listed
    obtain ⟨member, isMember, rfl⟩ := List.mem_map.mp within
    cases hosted
    exact ⟨endpoint, isEndpoint, .addition isMembers outside isMember isFor.method isFor.body url⟩
  note _ _ := World.follows_note fun _ => trivial

/-- So each request of a joining speaks of an endpoint by the host of its host. -/
theorem names_join {endpoints : List Text}
    (ran : (Join.join (client.plane network) (.texts endpoints) watched).outcome world = (result, after)) :
    World.Adds (Act.Names (Discovery.Finds (client.plane network) (.texts endpoints) watched world) endpoints)
      world after := by
  have names := names_plane client network watched
    (Discovery.Finds (client.plane network) (.texts endpoints) watched world) endpoints
  by_cases several : 2 ≤ endpoints.length
  · rw [Join.join_of_length_ge several] at ran
    have asks : (Discovery.membership (client.plane network) (.texts endpoints) watched).Follows _ :=
      Discovery.follows_membership fun items same => by
        cases same
        exact names
    -- Only where members are found is anybody taken in.
    rcases found : (Discovery.membership (client.plane network) (.texts endpoints) watched).outcome world
      with ⟨failure | members, settled⟩
    · rw [Action.outcome_bind_of_error found] at ran
      cases ran
      exact asks.after found
    · rw [Action.outcome_bind_of_ok found] at ran
      exact trans_of _ (asks.after found) ((Join.follows_addAll names ⟨settled, found⟩).after ran)
  · rw [Join.join_of_length_lt (by omega)] at ran
    cases ran
    exact refl_of _ world

/--
The names of the endpoints of an accepted configuration, in a joining of any outcome.

The host of an endpoint is there, and is its own host, exactly when the endpoint is usable. An endpoint that
is only a scheme and slashes is accepted, and has no host. One that begins with two schemes is also accepted,
and its host is not its own host.

Every request asks one of the endpoints about its cluster, or asks a member of the cluster that is found to
take it in, because its host is none of the members. In both cases the endpoint is called by the host of its
host. So a usable one is called by the same name in all places, which is not empty.
-/
theorem load_names {files : Files} {environment : Environment} {path : Value} {config : Config}
    (loaded : Config.load files environment path = .ok config)
    (ran : (Join.join (client.plane network) config.server.endpoints watched).outcome world =
      (result, after)) :
    ∃ endpoints, config.server.endpoints = .texts endpoints ∧
      (∀ endpoint ∈ endpoints,
        Endpoint.host endpoint ≠ [] ∧ Endpoint.host (Endpoint.host endpoint) = Endpoint.host endpoint ↔
          Endpoint.IsUsable endpoint) ∧
      ∃ requests, after.sent = world.sent ++ requests ∧
        ∀ request ∈ requests, ∃ endpoint ∈ endpoints,
          request.Concerns (Discovery.Finds (client.plane network) config.server.endpoints watched world)
            endpoint (Endpoint.host (Endpoint.host endpoint)) ∧
          (Endpoint.IsUsable endpoint →
            request.Concerns (Discovery.Finds (client.plane network) config.server.endpoints watched world)
              endpoint (Endpoint.host endpoint)) := by
  obtain ⟨endpoints, _, listed⟩ := (Config.load_valid loaded).exists_texts
  refine ⟨endpoints, listed, fun endpoint _ => Endpoint.isUsable_iff.symm, ?_⟩
  rw [listed] at ran ⊢
  obtain ⟨requests, sent, concern⟩ := (names_join ran).exists_sent
  refine ⟨requests, sent, fun request inside => ?_⟩
  obtain ⟨endpoint, isEndpoint, concerns⟩ := concern request inside
  refine ⟨endpoint, isEndpoint, concerns, fun usable => ?_⟩
  -- Here the host of the host is the host.
  rwa [(Endpoint.isUsable_iff.mp usable).2] at concerns

/-- The entries of a document that names some endpoints, and nothing else. -/
def entriesOf (endpoints : List Text) : List (Value × Value) :=
  [(.text "server", .map [(.text "endpoints", .texts endpoints)])]

/-- Their configuration. -/
def configOf (endpoints : List Text) : Config where
  server := { endpoints := .texts endpoints, apiKey := .text "", timeout := .int 10, tls := {} }
  logging := {}

/-- Such a document is accepted when its endpoints are, if there is no reference in them. -/
theorem load_configOf {content : List UInt8} {endpoints : List Text}
    (read : Config.readDocument (Path.ofText "kms.yaml").text content = .ok (.map (entriesOf endpoints)))
    (plain : ∀ endpoint ∈ endpoints, ¬ Reference.opening <:+: endpoint)
    (accepted : Config.checkEndpoints (.texts endpoints) = .ok ()) :
    Config.load (Config.onlyFile content) (.ofList []) (.text "kms.yaml") = .ok (configOf endpoints) := by
  have same : (Environment.ofList []).expandEntries (entriesOf endpoints) = .ok (entriesOf endpoints) := by
    simp only [entriesOf, Environment.expandEntries_eq, Environment.expandEntriesWithin,
      Environment.expandWithin, Environment.expandWithin_texts_of_plain plain]
    rfl
  rw [Config.load_onlyFile read same]
  -- Everything but the endpoints is left to its default.
  change (Config.checkEndpoints (.texts endpoints) >>= fun _ => _) = _
  rw [accepted]
  rfl

/-- A document of two servers, one of them with a scheme and a slash. -/
def spelledContent : List UInt8 :=
  "\x7b\"server\":\x7b\"endpoints\":[\"https://a/\",\"c\"]\x7d\x7d".toUTF8.toList

/-- The first server is asked under its host, and so are the members to take in the second one. -/
theorem load_names_spelled : ∃ (after : World Unit) (requests : List Request),
    Config.load (Config.onlyFile spelledContent) (.ofList []) (.text "kms.yaml") =
        .ok (configOf ["https://a/", "c"]) ∧
      after.sent = (World.silent 0).sent ++ requests ∧
      requests.map Request.url = ([
        "https://a/v1/cluster/status", "https://a/v1/cluster/add", "https://b/v1/cluster/add"] : List Text) ∧
      ∀ request ∈ requests, ∃ endpoint ∈ (["https://a/", "c"] : List Text), request.Concerns
        (Discovery.Finds (bare.plane (Network.pair 0)) (.texts ["https://a/", "c"]) false (World.silent 0))
          endpoint (Endpoint.host endpoint) := by
  have read : Config.readDocument (Path.ofText "kms.yaml").text spelledContent =
      .ok (.map (entriesOf ["https://a/", "c"])) := Value.eq_ok_of_isSurely (by decide +kernel)
  have loaded := load_configOf read (by decide) rfl
  obtain ⟨after, ran, urls⟩ := Join.outcome_pair 0
  -- The two endpoints have hosts of their own, so what is concerned can be read from the requests.
  obtain ⟨endpoints, listed, usable, requests, sent, concern⟩ := load_names loaded ran
  obtain rfl : (["https://a/", "c"] : List Text) = endpoints :=
    List.map_injective_iff.mpr (fun _ _ => Value.text.inj) (Value.list.inj listed)
  have single : ∀ endpoint ∈ (["https://a/", "c"] : List Text), Endpoint.host endpoint ≠ [] ∧
      Endpoint.host (Endpoint.host endpoint) = Endpoint.host endpoint := by decide
  refine ⟨after, requests, loaded, sent, ?_, fun request inside => ?_⟩
  · rw [← urls, sent]
    rfl
  · obtain ⟨endpoint, isEndpoint, _, concerns⟩ := concern request inside
    exact ⟨endpoint, isEndpoint, concerns ((usable endpoint isEndpoint).mp (single endpoint isEndpoint))⟩

/-- A document of two endpoints that are not usable: one is only a scheme, and the other one has two. -/
def schemesContent : List UInt8 :=
  "\x7b\"server\":\x7b\"endpoints\":[\"https://\",\"https://https://a\"]\x7d\x7d".toUTF8.toList

/-- Servers that know of no cluster. -/
def vacant : Network Unit where
  answer _ _ := ({ advance := 0, cancels := false, outcome := .ok { status := 200, body := "\x7b\x7d" } }, ())

/-- The document is accepted. The first endpoint has no host, and requests go to it all the same. The second
one is to be taken in since one name is none of the members, and it is called by another name then. -/
theorem load_misnames :
    Config.load (Config.onlyFile schemesContent) (.ofList []) (.text "kms.yaml") =
        .ok (configOf ["https://", "https://https://a"]) ∧
      (Endpoint.host "https://" = [] ∧ Endpoint.host "https://https://a" = "https://a" ∧
        Endpoint.host "https://a" = "a") ∧
      ∃ after, (Join.join (bare.plane vacant) (configOf ["https://", "https://https://a"]).server.endpoints
          false).outcome (World.silent 0) = (.ok (), after) ∧
        after.sent.map (fun request => (request.url, request.body)) =
          [(("https:///v1/cluster/status" : Text), none),
            (("https:///v1/cluster/add" : Text), naming "a")] := by
  have read : Config.readDocument (Path.ofText "kms.yaml").text schemesContent =
      .ok (.map (entriesOf ["https://", "https://https://a"])) :=
    Value.eq_ok_of_isSurely (by decide +kernel)
  exact ⟨load_configOf read (by decide) rfl, by decide, _, rfl, rfl⟩

end Client

end KeyCluster

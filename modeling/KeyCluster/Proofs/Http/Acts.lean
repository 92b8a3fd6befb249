import KeyCluster.Command.Run
import KeyCluster.Proofs.Cluster.Following
import KeyCluster.Proofs.Http.Exchange

/-! What calls to servers leave among the acts of a run. -/

namespace KeyCluster

variable {σ : Type} {kind : Act → Prop}

/-- Only acts of one kind are added between two states. -/
def World.Adds (kind : Act → Prop) (before after : World σ) : Prop :=
  ∃ acts, after.acts = before.acts ++ acts ∧ ∀ act ∈ acts, kind act

namespace World

namespace Adds

variable {before after : World σ}

/-- Acts of one kind can follow one another. -/
instance : IsPreorder (World σ) (Adds kind) where
  refl _ := ⟨[], by simp, by simp⟩
  trans := by
    rintro before middle after ⟨front, first, fits⟩ ⟨rest, second, others⟩
    exact ⟨front ++ rest, by rw [second, first, List.append_assoc],
      List.forall_mem_append.mpr ⟨fits, others⟩⟩

/-- One act is added. -/
theorem single {act : Act} (same : after.acts = before.acts ++ [act]) (fits : kind act) :
    Adds kind before after :=
  ⟨[act], same, by simpa using fits⟩

/-- The requests among acts of one kind are those that are sent. -/
theorem exists_sent (adds : Adds kind before after) :
    ∃ requests, after.sent = before.sent ++ requests ∧ ∀ request ∈ requests, kind (.sent request) := by
  obtain ⟨acts, same, fits⟩ := adds
  -- Every request that is sent is one of the acts.
  refine ⟨_, by rw [World.sent, same, List.filterMap_append]; rfl, fun request inside => ?_⟩
  obtain ⟨act, isAct, same⟩ := List.mem_filterMap.mp inside
  cases act with
  | sent other =>
    cases same
    exact fits _ isAct
  | _ => cases same

end Adds

/-- Telling the log something adds at most the message. -/
theorem follows_note {entry : Entry} (fits : ∀ time, kind (.logged time entry)) :
    (note entry : Action (World σ) Unit).Follows (Adds kind) := by
  refine .of_outcome fun {world after result} noted => ?_
  rcases note_cases noted with ⟨_, rfl⟩ | ⟨_, rfl⟩
  · exact .single rfl (fits _)
  · exact refl_of _ after

/-- Sending a request adds the request. -/
theorem adds_send {network : Network σ} {request : Request} (fits : kind (.sent request))
    (world : World σ) : Adds kind world (world.send network request).2 := by
  have same : (world.send network request).2.acts = world.acts ++ [.sent request] := by
    -- Nothing is added when the operation is cancelled meanwhile.
    unfold send
    dsimp only
    split <;> rfl
  exact .single same fits

end World

/-- A request for a resource of one of some hosts. -/
structure Request.IsFor (method path : Text) (body : Option Value) (hosts : List Value) (request : Request) :
    Prop where
  method : request.method = method
  body : request.body = body
  url : ∃ endpoint ∈ hosts, ∃ host, Endpoint.hostOf endpoint = .ok host ∧
    request.url = Endpoint.scheme ++ host ++ path

/-- A request for some hosts is also one for more of them. -/
theorem Request.IsFor.behind {method path : Text} {body : Option Value} {endpoint : Value} {rest : List Value}
    {request : Request} (isFor : request.IsFor method path body rest) :
    request.IsFor method path body (endpoint :: rest) where
  method := isFor.method
  body := isFor.body
  url :=
    have ⟨other, inside, there⟩ := isFor.url
    ⟨other, List.mem_cons_of_mem _ inside, there⟩

namespace Client

variable {client : Client} {network : Network σ} {method path : Text} {body : Option Value} {watched : Bool}

section Calls

variable {relation : World σ → World σ → Prop} [IsPreorder (World σ) relation] {hosts : Value}

/-- A question for the status follows what the request does. -/
theorem follows_status (asks : (client.ask network "GET" statusPath none hosts watched).Follows relation) :
    (client.status network hosts watched).Follows relation := by
  refine asks.bind fun response => ?_
  -- What the answer is read as changes nothing.
  split
  · exact .pure _
  · exact .throw _

/-- So does asking to take in a host, which is the host of what is given. -/
theorem follows_add {given : Value} (asks : ∀ host, Endpoint.hostOf given = .ok host →
      (client.ask network "POST" addPath (some (.record [("host", .text host)])) hosts watched).Follows
        relation) :
    (client.add network given hosts watched).Follows relation :=
  Action.Follows.ofValue_bind fun host named => (asks host named).bind fun _ => .pure _

end Calls

/-- Checking adds nothing. -/
theorem follows_check : (check watched : Action (World σ) Unit).Follows (World.Adds kind) := by
  refine Action.Follows.get.bind fun world => ?_
  split
  · exact .throw _
  · exact .throw _
  · exact .pure _

/-- Nor does working out a time limit. -/
theorem follows_limit : (client.limit watched : Action (World σ) Value).Follows (World.Adds kind) := by
  refine Action.Follows.get.bind fun world => ?_
  split
  · exact .pure _
  · exact .ofValue _

variable (tells : ∀ time entry, entry.logger = logger → kind (.logged time entry))

include tells

/-- What the client says about a request adds the message. -/
theorem follows_told (message : Text) : (note message : Action (World σ) Unit).Follows (World.Adds kind) :=
  World.follows_note fun time => tells time _ rfl

/-- What follows a request adds what asking the other hosts does. -/
theorem follows_reply {host : Text} {rest : List Value}
    (others : ∀ last, (askFrom client network method path body watched last rest).Follows (World.Adds kind))
    (outcome : Except Failure Response) :
    (match outcome with
      | .ok response => accept method path host response
      | .error failure =>
        match breakdown? failure with
        | none => throw failure
        | some unreachable => do
          check watched
          if unreachable then
            note ("Host " ++ host ++ " unreachable: " ++ failure.message)
            askFrom client network method path body watched (host, failure.message) rest
          else throw (.api (.unanswered host failure.message)) :
      Action (World σ) Response).Follows (World.Adds kind) := by
  -- An answer ends the asking, and so does a failure unless the next host may be tried.
  cases outcome with
  | ok response =>
    dsimp only [accept]
    split
    · exact (Action.Follows.throw _).bind fun _ => .pure _
    · exact .pure _
  | error failure =>
    dsimp only
    split
    · exact .throw _
    · refine follows_check.bind fun _ => ?_
      split
      · exact (follows_told tells _).bind fun _ => others _
      · exact .throw _

/-- Asking hosts in order adds requests for them, and what the log is told about requests. -/
theorem follows_askFrom {hosts : List Value}
    (sends : ∀ request, request.IsFor method path body hosts → kind (.sent request)) (last : Text × Text) :
    (askFrom client network method path body watched last hosts).Follows (World.Adds kind) := by
  induction hosts generalizing last with
  -- What stands in front of the hosts changes from one to the next, so it is left open.
  | nil => exact .throw _
  | cons endpoint rest ih =>
    refine Action.Follows.ofValue_bind fun host named => follows_check.bind fun _ => ?_
    refine follows_limit.bind fun timeout => (follows_told tells _).bind fun _ => ?_
    have isFor (timeout : Value) : Request.IsFor method path body (endpoint :: rest)
        { method, url := Endpoint.scheme ++ host ++ path, timeout, body, credentials := client.credentials } :=
      ⟨rfl, rfl, endpoint, List.mem_cons_self, host, named, rfl⟩
    refine Action.Follows.bind (fun world => World.adds_send (sends _ (isFor _)) world) fun outcome => ?_
    exact follows_reply tells (ih fun request isFor => sends request isFor.behind) outcome

/-- So does a request to some hosts. -/
theorem follows_ask {hosts : Value} (sends : ∀ items, hosts.parts = .ok items →
    ∀ request, request.IsFor method path body items → kind (.sent request)) :
    (client.ask network method path body hosts watched).Follows (World.Adds kind) := by
  unfold ask
  have asks : (Action.ofValue hosts.parts >>= askFrom client network method path body watched
      ("", "None")).Follows (World.Adds kind) :=
    Action.Follows.ofValue_bind fun items listed => follows_askFrom tells (sends items listed) _
  -- Without any host a failure comes first, and otherwise the hosts are asked in order.
  split
  · exact (Action.Follows.throw _).bind fun _ => asks
  · exact asks

end Client

/-- What may be done while servers are dealt with: requests with some methods, messages of other parts than
that which speaks about the run as a whole, and lines. -/
def Act.IsWork (methods : List Text) : Act → Prop
  | .sent request => request.method ∈ methods
  | .logged _ entry => entry.logger ≠ Notice.logger
  | .printed _ => True

namespace Client

variable {client : Client} {network : Network σ} {watched : Bool} {methods : List Text}

/-- A request is work if its method may be used. -/
theorem works_sent {method : Text} (allowed : method ∈ methods) (request : Request)
    (same : request.method = method) : (Act.sent request).IsWork methods := by
  rw [Act.IsWork, same]
  exact allowed

/-- What the client tells the log about requests is. -/
theorem works_told (time : Float) (entry : Entry) (same : entry.logger = logger) :
    (Act.logged time entry).IsWork methods := by
  rw [Act.IsWork, same]
  decide

/-- So asking hosts is. -/
theorem works_ask {method path : Text} {body : Option Value} (allowed : method ∈ methods) (hosts : Value) :
    (client.ask network method path body hosts watched).Follows (World.Adds (Act.IsWork methods)) :=
  follows_ask works_told fun _ _ request isFor => works_sent allowed request isFor.method

/-- A question for the status is. -/
theorem works_status (allowed : ("GET" : Text) ∈ methods) (hosts : Value) :
    (client.status network hosts watched).Follows (World.Adds (Act.IsWork methods)) :=
  follows_status (works_ask allowed hosts)

/-- Questions and requests to take in hosts are all that a client is asked for. -/
theorem works_plane (client : Client) (network : Network σ) (watched : Bool) :
    (client.plane network).Follows watched (World.Adds (Act.IsWork ["GET", "POST"])) where
  status hosts := works_status (by simp) _
  add host hosts := follows_add fun _ _ => works_ask (by simp) _
  note entry same := by
    refine World.follows_note fun time => ?_
    rw [Act.IsWork, same]
    decide

end Client

end KeyCluster

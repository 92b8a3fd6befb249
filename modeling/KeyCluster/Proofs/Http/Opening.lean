import KeyCluster.Proofs.Http.Acts
import KeyCluster.Proofs.Http.Cancellation
import KeyCluster.Proofs.Http.TimeLimits

/-! What can go wrong before the first request is sent. -/

namespace KeyCluster

variable {σ α β : Type}

/-- A time limit can be worked out where a number is given. -/
theorem World.exists_limit {watched : Bool} {most : Value} (number : most.isNumber = true)
    (world : World σ) : ∃ timeout, world.limit watched most = .ok timeout := by
  -- Comparing the limit with the time that is left works since the limit is a number.
  unfold limit
  split
  · exact ⟨most, rfl⟩
  · unfold Context.limitWith
    split
    · exact ⟨most, rfl⟩
    · rw [Value.exceeds, if_pos number]
      exact ⟨_, rfl⟩

namespace Client

/-- An action fails because the operation has to stop, or it sends a request. -/
def Opens (action : Action (World σ) α) (world : World σ) : Prop :=
  (∃ lapse : Lapse, (action.outcome world).1 = .error lapse.failure) ∨
    world.sent.length < (action.outcome world).2.sent.length

namespace Opens

variable {action : Action (World σ) α} {next : α → Action (World σ) β} {world : World σ}

/-- What was sent stays sent. -/
theorem bind (opens : Opens action world)
    (goesOn : ∀ a, (next a).Follows (World.Adds (Act.IsWork ["GET", "POST"]))) :
    Opens (action >>= next) world := by
  -- A failure of the first action is the failure of both.
  rcases ran : action.outcome world with ⟨failure | a, middle⟩
  · rw [Opens, ran] at opens
    rw [Opens, Action.outcome_bind_of_error ran]
    rcases opens with ⟨lapse, same⟩ | sent
    · cases same
      exact .inl ⟨lapse, rfl⟩
    · exact .inr sent
  · rw [Opens, ran] at opens
    rw [Opens, Action.outcome_bind_of_ok ran]
    -- An action that succeeds has sent something.
    rcases opens with ⟨_, failed⟩ | sent
    · cases failed
    · obtain ⟨requests, more, _⟩ := (goesOn a middle).exists_sent
      right
      rw [more, List.length_append]
      dsimp only at sent
      omega

/-- A message that the log takes is no request. -/
theorem behind_note {entry : Entry} {rest : Action (World σ) β} (free : entry.isFree = true)
    (timed : world.Timed) (opens : ∀ told, told.Timed → told.sent = world.sent → Opens rest told) :
    Opens (World.note entry >>= fun _ => rest) world := by
  have noted := World.note_of_timed free timed
  have sent := (World.idle_note noted).sent
  have opens := opens (world.record (.logged world.timeOfDay entry)) timed sent
  rw [Opens, sent] at opens
  rwa [Opens, Action.outcome_bind_of_ok noted]

end Opens

variable {client : Client} {network : Network σ} {watched : Bool} {world : World σ}

/-- Asking hosts begins with a request to the first one, unless the operation has to stop. -/
theorem opens_ask {method path : Text} {body : Option Value} (number : client.timeout.isNumber = true)
    (allowed : method ∈ (["GET", "POST"] : List Text)) (timed : world.Timed) (endpoint : Text)
    (rest : List Text) :
    Opens (client.ask network method path body (.texts (endpoint :: rest)) watched) world := by
  rw [ask_texts (by simp), List.map_cons, askFrom, Opens, Action.outcome_bind_of_ok (by rfl)]
  -- The operation is looked at first, and only then is there a request.
  cases going : world.lapse? watched with
  | some lapse =>
    rw [Action.outcome_bind_of_error (outcome_check_of_lapse going)]
    exact .inl ⟨lapse, rfl⟩
  | none =>
    obtain ⟨timeout, limited⟩ := World.exists_limit number world
    rw [Action.outcome_bind_of_ok (outcome_check_of_going going),
      Action.outcome_bind_of_ok (by rw [outcome_limit, limited]; rfl)]
    -- The log takes the message, and then the request is sent.
    refine Opens.behind_note rfl timed fun told _ _ => ?_
    refine Opens.bind (.inr ?_) fun outcome =>
      follows_reply works_told (follows_askFrom works_told fun request isFor =>
        works_sent allowed request isFor.method) outcome
    change told.sent.length < (told.send network _).2.sent.length
    rw [World.sent_send, List.length_append]
    simp

/-- So does a question for the status. -/
theorem opens_status (number : client.timeout.isNumber = true) (timed : world.Timed) (host : Text) :
    Opens (client.status network (.texts [host]) watched) world := by
  refine (opens_ask number (by simp) timed host []).bind fun response => ?_
  split
  · exact .pure _
  · exact .throw _

end Client

variable {client : Client} {network : Network σ} {world : World σ}

/-- Joining several servers begins with a request, unless the operation has to stop. -/
theorem Join.opens_join (number : client.timeout.isNumber = true) (timed : world.Timed)
    {endpoints : List Text} (several : 2 ≤ endpoints.length) (watched : Bool) :
    Client.Opens (join (client.plane network) (.texts endpoints) watched) world := by
  have works := Client.works_plane client network watched
  have restricted (items : List Value) : (client.plane network).FollowsFor watched items (fun _ => True)
      (World.Adds (Act.IsWork ["GET", "POST"])) := works.restrict items
  obtain ⟨endpoint, rest, rfl⟩ := List.exists_cons_of_length_pos (by omega : 0 < endpoints.length)
  rw [join_of_length_ge several]
  -- It is enough that discovery begins so, since what comes later only adds to what was sent.
  refine Client.Opens.bind ?_ fun members => follows_addAll (restricted _) trivial
  rw [Discovery.membership_texts]
  refine Client.Opens.bind ?_ fun found => ?_
  · rw [Discovery.probe_cons]
    refine Client.Opens.behind_note rfl timed fun told timed _ => ?_
    refine (Client.opens_status number timed _).bind fun report => ?_
    split
    · exact Discovery.follows_probe (restricted _)
    · exact Discovery.follows_membersOf (restricted []) _ report
  · cases found with
    | some members => exact .pure _
    | none => exact (works.note _ rfl).bind fun _ => .pure _

/-- So does listing the clusters of servers. -/
theorem Listing.opens_list (number : client.timeout.isNumber = true) (timed : world.Timed) (endpoint : Text)
    (rest : List Text) (watched : Bool) : Client.Opens
      (list (client.plane network) Run.write watched ((endpoint :: rest).map .text)) world := by
  change Client.Opens (client.status network (.texts [Endpoint.host endpoint]) watched >>= _) world
  refine (Client.opens_status number timed _).bind fun report => ?_
  refine (Action.Follows.ofValue _).bind fun line => ?_
  refine Action.Follows.bind (fun _ => .single rfl trivial) fun _ => ?_
  exact follows_list (fun hosts => Client.works_status (by simp) _) (fun _ _ => .single rfl trivial) _

end KeyCluster

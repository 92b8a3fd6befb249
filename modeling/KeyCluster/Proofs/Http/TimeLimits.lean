import KeyCluster.Proofs.Config.Validity
import KeyCluster.Proofs.Http.Acts
import KeyCluster.Proofs.Http.Cancellation
import KeyCluster.Proofs.Value.Order

/-! The time limits that requests are sent with. -/

namespace KeyCluster

variable {σ : Type} {network : Network σ} {watched : Bool} {most timeout : Value}

/-- The world goes from one state to another, and every request on the way is sent in time. -/
def Network.Punctual (network : Network σ) (watched : Bool) (most : Value) (before after : World σ) : Prop :=
  ∃ dispatches, network.Passes dispatches before after ∧
    ∀ dispatch ∈ dispatches, dispatch.InTime watched most

namespace Network.Punctual

/-- Requests that are sent in time can follow one another. -/
instance : IsPreorder (World σ) (network.Punctual watched most) where
  refl world := ⟨[], .idle (.refl world), by simp⟩
  trans := by
    rintro before middle after ⟨front, first, punctual⟩ ⟨rest, second, others⟩
    exact ⟨front ++ rest, first.append second, List.forall_mem_append.mpr ⟨punctual, others⟩⟩

/-- Without a request there is none that is late. -/
theorem idle {before after : World σ} (idle : before.Idle after) :
    network.Punctual watched most before after :=
  ⟨[], .idle idle, by simp⟩

end Network.Punctual

/-- Writing takes no request. -/
theorem Run.idle_write (line : Text) {world after : World σ} {result : Except Failure Unit}
    (ran : (Run.write line).outcome world = (result, after)) : world.Idle after := by
  cases ran
  exact ⟨rfl, by simp [World.sent, World.record]⟩

namespace Client

variable {client : Client}

/-- Hosts are asked by requests that are sent in time. -/
theorem punctual_ask {method path : Text} {body : Option Value} {hosts : List Text} :
    (client.ask network method path body (.texts hosts) watched).Follows
      (network.Punctual watched client.timeout) := by
  -- Whether the request succeeds or fails, its dispatches are known.
  refine .of_outcome fun {world after result} ran => ?_
  by_cases none : hosts = []
  · -- Without a host there is nobody to ask.
    rw [none] at ran
    cases ran
    exact refl_of _ world
  · cases result with
    | ok response =>
      obtain ⟨dispatches, passed, punctual, _⟩ := ask_eq_ok ran
      exact ⟨dispatches, passed, punctual⟩
    | error failure =>
      obtain ⟨dispatches, passed, punctual, _⟩ := ask_eq_error none ran
      exact ⟨dispatches, passed, punctual⟩

/-- Whatever a client is asked to do takes requests that are sent in time. -/
theorem punctual_plane (client : Client) (network : Network σ) (watched : Bool) :
    (client.plane network).Follows watched (network.Punctual watched client.timeout) where
  status _ := follows_status punctual_ask
  add _ _ := follows_add fun _ _ => punctual_ask
  note _ _ := .of_outcome fun noted => .idle (World.idle_note noted)

end Client

/-- How much time is left for the operation, if that is limited. Only calls that are watched can tell. -/
def World.remaining? (watched : Bool) (world : World σ) : Option Float :=
  (Client.contextOf watched world).bind fun context => context.remaining? world.now

/-- Time is left where the operation need not stop. -/
theorem World.remaining_pos {world : World σ} {time : Float} (going : world.lapse? watched = none)
    (left : world.remaining? watched = some time) : 0 < time := by
  obtain ⟨context, known, left⟩ := Option.bind_eq_some_iff.mp left
  rw [lapse?, known, Option.bind_some, Context.lapse?, left] at going
  obtain ⟨deadline, _, same⟩ := Option.map_eq_some_iff.mp left
  -- What is left is never undefined, so it is above zero unless it is zero itself.
  split at same
  · rename_i positive
    rwa [← same]
  · rw [← same] at going
    have nothing : (0 : Float) ≤ 0 := by decide
    simp only [if_pos nothing] at going
    split at going <;> cases going

/-- The time limit of a request is the one that is given, unless less is left for the operation. -/
theorem World.limit_eq_ok {world : World σ} (number : most.isNumber = true)
    (limited : world.limit watched most = .ok timeout) :
    timeout = most ∧ (∀ time, world.remaining? watched = some time → ¬ Value.IsLess (.float time) most) ∨
      ∃ time, world.remaining? watched = some time ∧ timeout = .float time ∧
        Value.IsLess (.float time) most := by
  unfold limit at limited
  -- There is no deadline without a context, nor in a context that has none.
  unfold remaining?
  split at limited
  · rename_i unwatched
    cases limited
    exact .inl ⟨rfl, by simp [unwatched]⟩
  · rename_i context known
    unfold Context.limitWith at limited
    rw [known, Option.bind_some]
    split at limited
    · rename_i unlimited
      cases limited
      exact .inl ⟨rfl, by simp [unlimited]⟩
    · rename_i time left
      -- The time that is left is taken only if it is less than what is given.
      rw [Value.exceeds, if_pos number] at limited
      by_cases less : Value.IsLess (.float time) most
      · have tells : (Value.compareNumbers (.float time) most == some .lt) = true := beq_iff_eq.mpr less
        rw [tells] at limited
        cases limited
        exact .inr ⟨time, left, rfl, less⟩
      · have tells : (Value.compareNumbers (.float time) most == some .lt) = false :=
          beq_eq_false_iff_ne.mpr less
        rw [tells] at limited
        cases limited
        exact .inl ⟨rfl, by simpa [left] using less⟩

/-- A request waits for a time above zero. This is at most the time limit that is given for all, and at most
what is left for the operation then. -/
structure Dispatch.IsBounded (watched : Bool) (most : Value) (dispatch : Dispatch σ) : Prop where
  /-- It waits at all. -/
  positive : Value.IsLess (.int 0) dispatch.request.timeout
  configured : Value.IsAtMost dispatch.request.timeout most
  remaining : ∀ time, dispatch.before.remaining? watched = some time →
    Value.IsAtMost dispatch.request.timeout (.float time)

namespace Config

/-- A time limit that is accepted is a number. -/
theorem isNumber_of_isTimeout (timely : isTimeout most = true) : most.isNumber = true :=
  (isTimeout_iff.mp timely).1

/-- It is above zero unless it is undefined. -/
theorem isLess_zero_of_isTimeout (timely : isTimeout most = true) (known : ¬ most.IsUndefined) :
    Value.IsLess (.int 0) most := by
  obtain ⟨number, above⟩ := isTimeout_iff.mp timely
  have turned := Value.compareNumbers_swap number (b := .int 0) rfl
  have zero : ¬ (Value.int 0).IsUndefined := by rintro ⟨_, ⟨⟩, _⟩
  have comparable : Value.compareNumbers most (.int 0) ≠ none := by
    simp [Value.compareNumbers_eq_none number (b := .int 0) rfl, known, zero]
  -- The check lets no other result of the comparison pass.
  rw [Value.IsLess, turned]
  cases result : Value.compareNumbers most (.int 0) with
  | none => exact absurd result comparable
  | some order =>
    cases order with
    | lt => exact absurd (.inl result) above
    | eq => exact absurd (.inr result) above
    | gt => rfl

end Config

/-- Requests that are sent in time are bounded exactly when the time limit that is given is not undefined. -/
theorem Dispatch.InTime.isBounded_iff {dispatch : Dispatch σ} (timely : Config.isTimeout most = true)
    (inTime : dispatch.InTime watched most) : dispatch.IsBounded watched most ↔ ¬ most.IsUndefined := by
  have number := Config.isNumber_of_isTimeout timely
  rcases World.limit_eq_ok number inTime.limited with ⟨same, enough⟩ | ⟨time, left, same, less⟩
  · -- The request waits as long as is given.
    constructor
    · intro bounded undefined
      have positive := bounded.positive
      -- What is undefined is not above zero, so the first bound rules it out.
      rw [same] at positive
      exact undefined.not_isLess rfl positive
    · intro known
      -- The first bound is that of the check, and the last one holds since not less than this is left.
      refine ⟨?_, ?_, fun time left => ?_⟩
      · rw [same]
        exact Config.isLess_zero_of_isTimeout timely known
      · rw [same]
        exact Value.isAtMost_self number known
      · rw [same]
        have positive := World.remaining_pos inTime.going left
        exact Value.isAtMost_of_not_isLess number rfl known (Value.not_isUndefined_of_pos positive)
          (enough time left)
  · -- The request waits for what is left, and that is a number less than the given one.
    have positive := World.remaining_pos inTime.going left
    have known := Value.not_isUndefined_of_pos positive
    constructor
    · intro _ undefined
      exact undefined.not_isLess rfl less
    · intro _
      refine ⟨?_, ?_, fun other alsoLeft => ?_⟩
      · rw [same]
        exact Value.isLess_zero_of_pos positive
      · rw [same]
        exact .inl less
      · cases left.symm.trans alsoLeft
        rw [same]
        exact Value.isAtMost_self rfl known

namespace Client

/-- The requests of a client have the time limit of its settings. -/
theorem timeout_of_ofSettings {files : Files} {settings : ServerSettings TlsSettings} {client : Client}
    (built : ofSettings files settings = .ok client) : client.timeout = settings.timeout := by
  obtain ⟨_, _, built⟩ := Result.bind_eq_ok.mp built
  obtain ⟨_, _, built⟩ := Result.bind_eq_ok.mp built
  obtain ⟨_, _, built⟩ := Result.bind_eq_ok.mp built
  cases built
  rfl

/-- What a client is made for: joining servers, and listing their clusters. -/
inductive Operation (client : Client) (network : Network σ) (watched : Bool) : Action (World σ) Unit → Prop
  | join (endpoints : Value) :
      Operation client network watched (Join.join (client.plane network) endpoints watched)
  | list (endpoints : List Value) :
      Operation client network watched (Listing.list (client.plane network) Run.write watched endpoints)

/-- All its requests are sent in time. -/
theorem Operation.punctual {client : Client} {operation : Action (World σ) Unit}
    (asked : client.Operation network watched operation) :
    operation.Follows (network.Punctual watched client.timeout) := by
  have plane := punctual_plane client network watched
  -- Joining and listing are made of calls that keep their time limits.
  cases asked with
  | join endpoints => exact Join.follows_join plane endpoints
  | list endpoints =>
    exact Listing.follows_list plane.status
      (fun line => .of_outcome fun wrote => .idle (Run.idle_write line wrote)) endpoints

/--
The time limits of all requests that a client sends which is made for an accepted configuration, be it to
join servers or to list clusters.

Each request waits for a time above zero, at most the configured one, and at most what is left until the
deadline when it is sent. The only exception is a configured time limit that is no number, which is accepted
as well: then no request is bounded.
-/
theorem requests_bounded {files later : Files} {environment : Environment} {path : Value} {config : Config}
    {client : Client} (loaded : Config.load files environment path = .ok config)
    (built : ofSettings later config.server = .ok client) (network : Network σ) (watched : Bool)
    {operation : Action (World σ) Unit} (asked : client.Operation network watched operation)
    {world after : World σ} {result : Except Failure Unit}
    (ran : operation.outcome world = (result, after)) :
    ∃ dispatches, network.Passes dispatches world after ∧
      after.sent = world.sent ++ dispatches.map Dispatch.request ∧
      ∀ dispatch ∈ dispatches,
        dispatch.IsBounded watched config.server.timeout ↔ ¬ config.server.timeout.IsUndefined := by
  obtain ⟨dispatches, passed, punctual⟩ := asked.punctual.after ran
  -- Each request is sent in time, and the limit of the client is that of the configuration.
  rw [timeout_of_ofSettings built] at punctual
  exact ⟨dispatches, passed, passed.sent, fun dispatch inside =>
    (punctual dispatch inside).isBounded_iff (Config.load_valid loaded).timeout⟩

/-- The client for two servers and a time limit. -/
def pairOf (limit : Float) : Client where
  credentials := { trust := .system, certificate := none, authorization := none }
  timeout := .float limit

set_option maxRecDepth 10000 in
/-- Four seconds are left when the first server is asked, which is less than the configured five. -/
theorem requests_bounded_pair : ∃ after dispatches,
    (Listing.list ((pairOf 5).plane Run.deserted) Run.write true [.text "a", .text "c"]).outcome Join.begun =
        (.error .noHosts, after) ∧
      Run.deserted.Passes dispatches Join.begun after ∧
      dispatches.map (Request.timeout ∘ Dispatch.request) = [.float 4] ∧
      ∀ dispatch ∈ dispatches, dispatch.IsBounded true (.float 5) := by
  -- The listing is computed: the first server names no host, so it ends there.
  have ran : (Listing.list ((pairOf 5).plane Run.deserted) Run.write true [.text "a", .text "c"]).outcome
      Join.begun = (.error .noHosts, _) := rfl
  have built : ofSettings (fun _ => .noFile) (Config.pairOf 5).server = .ok (pairOf 5) := rfl
  obtain ⟨dispatches, passed, sent, bounded⟩ :=
    requests_bounded Config.load_pair built Run.deserted true (.list _) ran
  refine ⟨_, dispatches, ran, passed, ?_, fun dispatch inside => (bounded dispatch inside).mpr ?_⟩
  · have timeouts := congrArg (List.map Request.timeout) sent
    rw [List.map_append, List.map_map] at timeouts
    exact timeouts.symm
  · change ¬ (Value.float 5).IsUndefined
    rw [Value.isUndefined_float]
    decide

/-- A document with a time limit that is no number. -/
def undefinedContent : List UInt8 :=
  "\x7b\"server\": \x7b\"endpoints\": \"a c\", \"timeout\": \"nan\"\x7d\x7d".toUTF8.toList

/-- The entries of this document. -/
def undefinedEntries : List (Value × Value) :=
  [(.text "server", .map [(.text "endpoints", .text "a c"), (.text "timeout", .text "nan")])]

set_option maxRecDepth 20000 in
/-- The document is accepted, and requests are sent with its time limit, which is not above zero. -/
theorem unbounded_pair :
    Config.load (Config.onlyFile undefinedContent) (.ofList []) (.text "kms.yaml") =
        .ok (Config.pairOf (0 / 0)) ∧
      ofSettings (fun _ => .noFile) (Config.pairOf (0 / 0)).server = .ok (pairOf (0 / 0)) ∧
      ∃ after, (Listing.list ((pairOf (0 / 0)).plane Run.deserted) Run.write true
          [.text "a", .text "c"]).outcome Join.begun = (.error .noHosts, after) ∧
        after.sent.map Request.timeout = [.float (0 / 0)] ∧ ¬ Value.IsLess (.int 0) (.float (0 / 0)) ∧
        ¬ Value.IsAtMost (.float (0 / 0)) (.float (0 / 0)) := by
  have plain : (Environment.ofList []).expandEntries undefinedEntries = .ok undefinedEntries :=
    Value.eq_ok_of_entriesAreSurely (by decide +kernel)
  have read : Config.readDocument (Path.ofText "kms.yaml").text undefinedContent =
      .ok (.map undefinedEntries) := Value.eq_ok_of_isSurely (by decide +kernel)
  -- Since nothing compares with the undefined number, every check lets it pass.
  refine ⟨?_, rfl, _, rfl, rfl, ?_, ?_⟩
  · rw [Config.load_onlyFile read plain]
    rfl
  · unfold Value.IsLess
    decide
  · unfold Value.IsAtMost Value.IsLess
    decide

end Client

end KeyCluster

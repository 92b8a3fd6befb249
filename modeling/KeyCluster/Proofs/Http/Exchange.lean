import KeyCluster.Http.Client
import KeyCluster.Proofs.Cluster.Trace

/-! The exchanges between a client and servers. -/

namespace KeyCluster

variable {σ : Type}

/-- A request, and what came of it. -/
structure Exchange where
  request : Request
  outcome : Except Failure Response

/-- Servers go from one state to another through some exchanges. -/
inductive Network.Serves (network : Network σ) : List Exchange → σ → σ → Prop
  /-- Without an exchange they stay as they are. -/
  | nil (servers : σ) : network.Serves [] servers servers
  /-- A request is answered, and the next ones meet the servers as they are then. -/
  | cons {request : Request} {rest : List Exchange} {before after : σ}
      (behind : network.Serves rest (network.answer request before).2 after) :
      network.Serves (⟨request, (network.answer request before).1.outcome⟩ :: rest) before after

/-- Exchanges come one after another. -/
theorem Network.Serves.append {network : Network σ} {exchanges others : List Exchange}
    {before middle after : σ} (first : network.Serves exchanges before middle)
    (second : network.Serves others middle after) :
    network.Serves (exchanges ++ others) before after := by
  -- The later exchanges begin where the earlier ones end.
  induction first with
  | nil => exact second
  | cons _ ih => exact .cons (ih second)

/-- The outcome of each exchange is what the network answered. -/
theorem Network.Serves.exists_answer {network : Network σ} {exchanges : List Exchange}
    {before after : σ} (served : network.Serves exchanges before after) {exchange : Exchange}
    (inside : exchange ∈ exchanges) :
    ∃ servers, exchange.outcome = (network.answer exchange.request servers).1.outcome := by
  -- Every exchange was made from an answer, at the state that the servers had then.
  induction served with
  | nil => simp at inside
  | cons _ ih =>
    rcases List.mem_cons.mp inside with rfl | inside
    · exact ⟨_, rfl⟩
    · exact ih inside

/-- The requests that were sent so far, in order. -/
def World.sent (world : World σ) : List Request :=
  world.acts.filterMap fun
    | .sent request => some request
    | _ => none

/-- The chronicle of a network: the exchanges whose requests were sent, and nothing else was. -/
def Network.chronicle (network : Network σ) : Chronicle (World σ) Exchange where
  -- Requests stand among the acts of a run, and their outcomes come from the servers.
  Tells exchanges before after := network.Serves exchanges before.servers after.servers ∧
    after.sent = before.sent ++ exchanges.map Exchange.request
  nil world := ⟨.nil _, by simp⟩
  append := by
    rintro exchanges others before middle after ⟨served, sent⟩ ⟨servedLater, sentLater⟩
    refine ⟨served.append servedLater, ?_⟩
    rw [sentLater, sent, List.map_append, List.append_assoc]

namespace World

/-- Nothing happens between two states, except that something is logged or printed. -/
structure Idle (before after : World σ) : Prop where
  /-- Time, servers and the operation are as they were. -/
  same : after = { before with acts := after.acts }
  sent : after.sent = before.sent

namespace Idle

variable {before middle after : World σ}

/-- A state is no step away from itself. -/
@[refl] theorem refl (world : World σ) : world.Idle world :=
  ⟨rfl, rfl⟩

/-- Idle times can follow one another. -/
theorem trans (first : before.Idle middle) (second : middle.Idle after) : before.Idle after := by
  refine ⟨?_, second.sent.trans first.sent⟩
  rw [second.same, first.same]

end Idle

variable {network : Network σ} {request : Request}

/-- Sending a request leaves the servers as the network says. -/
theorem servers_send (world : World σ) :
    (world.send network request).2.servers = (network.answer request world.servers).2 := by
  -- Cancelling and the passing of time leave servers alone.
  unfold send
  dsimp only
  split <;> rfl

/-- Sending a request sends that one and no other. -/
theorem sent_send (world : World σ) : (world.send network request).2.sent = world.sent ++ [request] := by
  -- Nothing but the request itself is added to the acts.
  unfold send
  dsimp only
  split <;> simp [sent, advance, cancel, record]

/-- Sending a request is an exchange, and the network tells its outcome. -/
theorem tells_send (network : Network σ) (request : Request) (world : World σ) :
    network.chronicle.Tells [⟨request, (world.send network request).1⟩] world
      (world.send network request).2 := by
  refine ⟨?_, sent_send world⟩
  rw [servers_send]
  exact .cons (.nil _)

/-- Telling the log something adds the message to the acts, or fails and does nothing. -/
theorem note_cases {entry : Entry} {world after : World σ} {result : Except Failure Unit}
    (ran : (note entry).outcome world = (result, after)) :
    result = .ok () ∧ after = world.record (.logged world.timeOfDay entry) ∨
      (∃ failure, result = .error failure) ∧ after = world := by
  rw [note, Action.outcome_bind_of_ok (Action.outcome_get world)] at ran
  -- Only what is heard becomes a record, and only a record can be refused.
  split at ran
  · cases accepted : (Record.ofEntry world.timeOfDay entry).accept with
    | error fault =>
      rw [accepted, Action.outcome_bind_of_error (by rfl)] at ran
      cases ran
      exact .inr ⟨⟨_, rfl⟩, rfl⟩
    | ok =>
      rw [accepted] at ran
      cases ran
      exact .inl ⟨rfl, rfl⟩
  · cases ran
    exact .inl ⟨rfl, rfl⟩

/-- Telling the log something takes no request. -/
theorem idle_note {entry : Entry} {world after : World σ} {result : Except Failure Unit}
    (ran : (note entry).outcome world = (result, after)) : world.Idle after := by
  -- Only the act of telling is added, if it comes to that.
  rcases note_cases ran with ⟨_, rfl⟩ | ⟨_, rfl⟩
  · exact ⟨rfl, by simp [World.sent, record]⟩
  · exact .refl after

/-- An idle time is no exchange. -/
theorem Idle.tells {before after : World σ} (idle : before.Idle after) (network : Network σ) :
    network.chronicle.Tells [] before after := by
  -- Servers do not notice what is logged.
  refine ⟨?_, by rw [idle.sent, List.map_nil, List.append_nil]⟩
  rw [idle.same]
  exact .nil _

end World

end KeyCluster

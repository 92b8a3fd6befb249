import KeyCluster.Proofs.Http.Exchange

/-! The states of the world in which requests are sent, and those that the requests leave. Time passes and
operations are cancelled only while a request is under way. -/

namespace KeyCluster

variable {σ : Type}

/-- How an operation fails that has to stop. -/
def Lapse.failure : Lapse → Failure
  | cancelled => .cancelled
  | deadline => .deadline

namespace World

/-- Why the operation has to stop now, if it has to. Only calls that are watched can tell. -/
def lapse? (watched : Bool) (world : World σ) : Option Lapse :=
  (Client.contextOf watched world).bind fun context => context.lapse? world.now

/-- A time limit, or what remains of the operation where that is less. -/
def limit (watched : Bool) (most : Value) (world : World σ) : Except ValueFault Value :=
  match Client.contextOf watched world with
  | none => .ok most
  | some context => context.limitWith Value.exceeds .float world.now most

/-- Whether an operation has to stop does not change without a request. -/
theorem Idle.lapse? {before after : World σ} (idle : before.Idle after) (watched : Bool) :
    after.lapse? watched = before.lapse? watched := by
  rw [idle.same]
  rfl

/-- Nor does what remains of it. -/
theorem Idle.limit {before after : World σ} (idle : before.Idle after) (watched : Bool) (most : Value) :
    after.limit watched most = before.limit watched most := by
  rw [idle.same]
  rfl

end World

/-- A request, and the state of the world in which it is sent. -/
structure Dispatch (σ : Type) where
  before : World σ
  request : Request

namespace Dispatch

/-- The state that the request leaves. -/
def after (network : Network σ) (dispatch : Dispatch σ) : World σ :=
  (dispatch.before.send network dispatch.request).2

/-- The request, with what came of it. -/
def exchange (network : Network σ) (dispatch : Dispatch σ) : Exchange :=
  ⟨dispatch.request, (dispatch.before.send network dispatch.request).1⟩

/-- A request is sent in time if the operation need not stop before it. It has the time limit that is due
then. -/
structure InTime (watched : Bool) (most : Value) (dispatch : Dispatch σ) : Prop where
  going : dispatch.before.lapse? watched = none
  /-- The request waits no longer than the operation may last. -/
  limited : dispatch.before.limit watched most = .ok dispatch.request.timeout

end Dispatch

/-- The world goes from one state to another through some dispatches. -/
inductive Network.Passes (network : Network σ) : List (Dispatch σ) → World σ → World σ → Prop
  /-- Without a dispatch nothing happens. -/
  | idle {before after : World σ} (idle : before.Idle after) : network.Passes [] before after
  /-- The first dispatch comes after an idle time, and the others from the state that it leaves. -/
  | sends {dispatch : Dispatch σ} {rest : List (Dispatch σ)} {before after : World σ}
      (idle : before.Idle dispatch.before)
      (behind : network.Passes rest (dispatch.after network) after) :
      network.Passes (dispatch :: rest) before after

namespace Network.Passes

variable {network : Network σ} {dispatch : Dispatch σ} {front rest others : List (Dispatch σ)}
  {before middle after : World σ}

/-- An idle time in front changes nothing. -/
theorem behind_idle (quiet : before.Idle middle) (passed : network.Passes others middle after) :
    network.Passes others before after := by
  cases passed with
  | idle idle => exact .idle (quiet.trans idle)
  | sends idle behind => exact .sends (quiet.trans idle) behind

/-- Dispatches come one after another. -/
theorem append (first : network.Passes front before middle) (second : network.Passes others middle after) :
    network.Passes (front ++ others) before after := by
  -- What comes later begins where the earlier dispatches end.
  induction first with
  | idle quiet => exact second.behind_idle quiet
  | sends idle _ ih => exact .sends idle (ih second)

/-- One dispatch, with idle times around it. -/
theorem single (idle : before.Idle dispatch.before) (quiet : (dispatch.after network).Idle after) :
    network.Passes [dispatch] before after :=
  .sends idle (.idle quiet)

/-- What follows a dispatch begins in the state that it leaves. -/
theorem behind (passed : network.Passes (front ++ dispatch :: rest) before after) :
    network.Passes rest (dispatch.after network) after := by
  -- A passage is taken apart from its front.
  induction front generalizing before with
  | nil =>
    cases passed with
    | sends _ behind => exact behind
  | cons _ _ ih =>
    cases passed with
    | sends _ behind => exact ih behind

/-- The requests of the dispatches are those that are sent. -/
theorem sent (passed : network.Passes others before after) :
    after.sent = before.sent ++ others.map Dispatch.request := by
  induction passed with
  | idle quiet => rw [quiet.sent, List.map_nil, List.append_nil]
  | sends idle _ ih =>
    rw [ih, Dispatch.after, World.sent_send, idle.sent, List.map_cons, List.append_assoc,
      List.singleton_append]

/-- An operation that has to stop sends nothing more, as long as each request would be sent in time. -/
theorem eq_nil_of_lapse {watched : Bool} {most : Value} {lapse : Lapse}
    (passed : network.Passes others before after)
    (punctual : ∀ dispatch ∈ others, dispatch.InTime watched most)
    (lapsed : before.lapse? watched = some lapse) : others = [] := by
  -- Before the first dispatch only idle time passes, which does not let an operation go on.
  cases passed with
  | idle => rfl
  | sends idle _ =>
    have going := (punctual _ List.mem_cons_self).going
    rw [idle.lapse?, lapsed] at going
    cases going

/-- A dispatch after which the operation has to stop is the last one, and the operation still has to stop in
the end. -/
theorem last_of_lapse {watched : Bool} {most : Value} {lapse : Lapse}
    (passed : network.Passes (front ++ dispatch :: rest) before after)
    (punctual : ∀ other ∈ front ++ dispatch :: rest, other.InTime watched most)
    (lapsed : (dispatch.after network).lapse? watched = some lapse) :
    rest = [] ∧ after.lapse? watched = some lapse := by
  have behind := passed.behind
  have none := behind.eq_nil_of_lapse (fun other inside => punctual other (by simp [inside])) lapsed
  subst none
  cases behind with
  | idle quiet => exact ⟨rfl, by rw [quiet.lapse?, lapsed]⟩

end Network.Passes

/-- Dispatches are exchanges, in the same order. -/
theorem Network.Passes.tells {network : Network σ} {dispatches : List (Dispatch σ)} {before after : World σ}
    (passed : network.Passes dispatches before after) :
    network.chronicle.Tells (dispatches.map (Dispatch.exchange network)) before after := by
  induction passed with
  | idle quiet => exact quiet.tells network
  | @sends dispatch _ _ _ idle _ ih =>
    -- An idle time is no exchange, and the request is one.
    have first := network.chronicle.append (idle.tells network)
      (World.tells_send network dispatch.request dispatch.before)
    exact network.chronicle.append first ih

/-- The chronicle of the dispatches to a network. -/
def Network.timeline (network : Network σ) : Chronicle (World σ) (Dispatch σ) where
  -- Neighbouring idle times become one.
  Tells := network.Passes
  nil world := .idle (.refl world)
  append := .append

namespace Client

variable {watched : Bool}

/-- Checking changes nothing where nothing stops the operation. -/
theorem outcome_check_of_going {world : World σ} (going : world.lapse? watched = none) :
    (check watched).outcome world = (.ok (), world) := by
  rw [World.lapse?] at going
  rw [check, Action.outcome_bind_of_ok (Action.outcome_get world)]
  simp only [going]
  rfl

/-- Checking fails where the operation has to stop, and changes nothing either. -/
theorem outcome_check_of_lapse {world : World σ} {lapse : Lapse}
    (lapsed : world.lapse? watched = some lapse) :
    (check watched).outcome world = (.error lapse.failure, world) := by
  rw [World.lapse?] at lapsed
  rw [check, Action.outcome_bind_of_ok (Action.outcome_get world)]
  simp only [lapsed]
  cases lapse <;> rfl

/-- Working out a time limit changes nothing. -/
theorem outcome_limit (client : Client) (world : World σ) :
    (client.limit watched).outcome world =
      ((world.limit watched client.timeout).mapError .value, world) := by
  rw [limit, Action.outcome_bind_of_ok (Action.outcome_get world), World.limit]
  -- With a context its deadline counts, and without one the limit of the client does.
  cases contextOf watched world with
  | none => rfl
  | some context => exact Action.outcome_ofValue _ world

end Client

end KeyCluster

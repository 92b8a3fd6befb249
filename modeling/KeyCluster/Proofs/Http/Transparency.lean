import KeyCluster.Proofs.Http.Opening
import KeyCluster.Proofs.Http.Routine

/-! An operation that is never found to have to stop does the same as one that is not watched. -/

namespace KeyCluster

variable {σ α β : Type} {network : Network σ} {client : Client}

/-- What comes of a request does not depend on its time limit. -/
def Network.IgnoresTimeouts (network : Network σ) : Prop :=
  ∀ (request : Request) (timeout : Value) (servers : σ),
    network.answer { request with timeout } servers = network.answer request servers

/-- The same request with another time limit. -/
def Request.within (request : Request) (timeout : Value) : Request :=
  { request with timeout }

/-- What is done is the same, except for the time limit of a request. -/
inductive Act.Alike : Act → Act → Prop
  | same (act : Act) : Alike act act
  /-- A request may have another time limit. -/
  | sent (request : Request) (timeout : Value) : Alike (.sent request) (.sent (request.within timeout))

namespace World

/-- In two worlds the same was done, except for the time limits of requests. -/
structure Alike (world other : World σ) : Prop where
  same : other = { world with acts := other.acts }
  acts : List.Forall₂ Act.Alike world.acts other.acts

namespace Alike

variable {world other : World σ}

/-- Every world is like itself. -/
@[refl] theorem refl (world : World σ) : world.Alike world :=
  ⟨rfl, List.forall₂_same.mpr fun act _ => .same act⟩

/-- The same act can be done in both worlds. -/
theorem record (alike : world.Alike other) {act next : Act} (same : act.Alike next) :
    (world.record act).Alike (other.record next) := by
  refine ⟨?_, List.rel_append alike.acts (.cons same .nil)⟩
  -- Only acts are added, so what was the same still is.
  unfold World.record
  conv_lhs => rw [alike.same]

/-- The log takes a message in both worlds or in none. -/
theorem note (alike : world.Alike other) (entry : Entry) : ∃ result after otherAfter,
    (World.note entry).outcome world = (result, after) ∧
      (World.note entry).outcome other = (result, otherAfter) ∧ after.Alike otherAfter := by
  have heard : other.hears = world.hears := by rw [alike.same]
  have time : other.timeOfDay = world.timeOfDay := by rw [alike.same]; rfl
  unfold World.note
  rw [Action.outcome_bind_of_ok (Action.outcome_get world),
    Action.outcome_bind_of_ok (Action.outcome_get other), heard, time]
  -- A message that is heard is refused if its record is, and then nothing was done.
  split
  · cases (Record.ofEntry world.timeOfDay entry).accept with
    | error fault => exact ⟨.error (.log fault), world, other, rfl, rfl, alike⟩
    | ok => exact ⟨.ok (), _, _, rfl, rfl, alike.record (.same _)⟩
  · exact ⟨.ok (), _, _, rfl, rfl, alike.record (.same _)⟩

/-- A request comes to the same in both worlds, whatever its time limit is. -/
theorem send (alike : world.Alike other) (ignored : network.IgnoresTimeouts) (request : Request)
    (timeout : Value) :
    (other.send network (request.within timeout)).1 = (world.send network request).1 ∧
      (world.send network request).2.Alike (other.send network (request.within timeout)).2 := by
  obtain ⟨acts, rfl⟩ : ∃ acts, other = { world with acts } := ⟨other.acts, alike.same⟩
  have reply : network.answer (request.within timeout) world.servers = network.answer request world.servers :=
    ignored request timeout world.servers
  unfold World.send
  rw [reply]
  refine ⟨rfl, ?_⟩
  have sent := List.rel_append alike.acts (.cons (.sent request timeout) .nil)
  -- Only the acts differ, whether the operation is cancelled meanwhile or not.
  dsimp only
  split <;> exact ⟨rfl, sent⟩

end Alike

end World

/-- A request has the time limit that is given for all, or less because less is left for the operation. -/
def Dispatch.IsLimited (most : Value) (dispatch : Dispatch σ) : Prop :=
  dispatch.request.timeout = most ∨ ∃ time, dispatch.before.remaining? true = some time ∧
    dispatch.request.timeout = .float time ∧ Value.IsLess (.float time) most

/-- So it is if its time limit was worked out when it was sent. -/
theorem Dispatch.isLimited_of_limit {most : Value} {dispatch : Dispatch σ} (number : most.isNumber = true)
    (limited : dispatch.before.limit true most = .ok dispatch.request.timeout) : dispatch.IsLimited most := by
  rcases World.limit_eq_ok number limited with ⟨whole, _⟩ | less
  · exact .inl whole
  · exact .inr less

namespace Client

/-- What is done from two worlds on is the same, except for the time limits of requests. Those in the second
world have the limit of the client, and those in the first one may have to be answered earlier. -/
structure Parallels (client : Client) (network : Network σ) (dispatches : List (Dispatch σ))
    (world other after otherAfter : World σ) : Prop where
  /-- All acts are alike in the end, and everything else is the same. -/
  alike : after.Alike otherAfter
  /-- These are the requests in the first world. -/
  passed : network.Passes dispatches world after
  /-- The requests in the second world are the same but for their time limit. -/
  sent : otherAfter.sent =
    other.sent ++ dispatches.map fun dispatch => dispatch.request.within client.timeout
  /-- A request in the first world has another time limit only if less is left for the operation. -/
  limited : ∀ dispatch ∈ dispatches, dispatch.IsLimited client.timeout

/-- Whether an operation is watched makes no difference, except for the time limits of requests. -/
def Transparent (client : Client) (network : Network σ) (operation : Bool → Action (World σ) α)
    (world other : World σ) : Prop :=
  ∃ result after otherAfter dispatches, (operation true).outcome world = (result, after) ∧
    (operation false).outcome other = (result, otherAfter) ∧
    client.Parallels network dispatches world other after otherAfter

namespace Parallels

variable {dispatches rest : List (Dispatch σ)} {world other middle otherMiddle after otherAfter : World σ}

/-- Nothing is different if no request is sent. -/
theorem idle (alike : after.Alike otherAfter) (quiet : world.Idle after)
    (otherQuiet : other.Idle otherAfter) : client.Parallels network [] world other after otherAfter where
  alike := alike
  passed := .idle quiet
  sent := by rw [otherQuiet.sent, List.map_nil, List.append_nil]
  limited := by simp

/-- What is the same at first can go on the same. -/
theorem append (first : client.Parallels network dispatches world other middle otherMiddle)
    (second : client.Parallels network rest middle otherMiddle after otherAfter) :
    client.Parallels network (dispatches ++ rest) world other after otherAfter where
  alike := second.alike
  passed := first.passed.append second.passed
  sent := by rw [second.sent, first.sent, List.map_append, List.append_assoc]
  limited := List.forall_mem_append.mpr ⟨first.limited, second.limited⟩

end Parallels

variable {world other : World σ}

/-- What ends at once makes no difference. -/
theorem transparent_of_still {operation : Bool → Action (World σ) α} {result : Except Failure α}
    (alike : world.Alike other) (ran : (operation true).outcome world = (result, world))
    (ranOther : (operation false).outcome other = (result, other)) :
    client.Transparent network operation world other :=
  ⟨result, world, other, [], ran, ranOther, .idle alike (.refl world) (.refl other)⟩

/-- Two steps make no difference if the first one does not, and the second does not after it. -/
theorem Transparent.bind {first : Bool → Action (World σ) α} {next : Bool → α → Action (World σ) β}
    (begun : client.Transparent network first world other)
    (goesOn : ∀ a after otherAfter, (first true).outcome world = (.ok a, after) →
      after.Alike otherAfter → client.Transparent network (next · a) after otherAfter) :
    client.Transparent network (fun watched => first watched >>= next watched) world other := by
  obtain ⟨result, middle, otherMiddle, dispatches, ran, ranOther, same⟩ := begun
  -- If the first action fails, there is no next one in either world.
  cases result with
  | error failure =>
    exact ⟨.error failure, middle, otherMiddle, dispatches, Action.outcome_bind_of_error ran,
      Action.outcome_bind_of_error ranOther, same⟩
  | ok a =>
    obtain ⟨result, after, otherAfter, rest, ranNext, ranNextOther, sameNext⟩ :=
      goesOn a middle otherMiddle ran same.alike
    exact ⟨result, after, otherAfter, dispatches ++ rest, (Action.outcome_bind_of_ok ran).trans ranNext,
      (Action.outcome_bind_of_ok ranOther).trans ranNextOther, same.append sameNext⟩

/-- The log makes no difference. -/
theorem transparent_note (alike : world.Alike other) (entry : Entry) :
    client.Transparent network (fun _ => World.note entry) world other := by
  obtain ⟨result, after, otherAfter, ran, ranOther, same⟩ := alike.note entry
  exact ⟨result, after, otherAfter, [], ran, ranOther,
    .idle same (World.idle_note ran) (World.idle_note ranOther)⟩

/-- Nor does a check, where the operation can go on. -/
theorem transparent_check (alike : world.Alike other) (going : world.lapse? true = none) :
    client.Transparent network check world other :=
  transparent_of_still alike (outcome_check_of_going going) (outcome_check_of_going rfl)

/-- A request makes none but for its time limit. -/
theorem transparent_dispatch (number : client.timeout.isNumber = true) (ignored : network.IgnoresTimeouts)
    (alike : world.Alike other) (method url : Text) (body : Option Value) :
    client.Transparent network (client.dispatch network method url body) world other := by
  -- Only the time limit differs, and a number can always be compared with the time that is left.
  obtain ⟨timeout, limited⟩ : ∃ timeout, world.limit true client.timeout = .ok timeout :=
    World.exists_limit number world
  -- Working out the time limit changes nothing, and without a context it is that of the client.
  have due : (client.limit true).outcome world = (.ok timeout, world) := by
    rw [outcome_limit, limited]
    rfl
  have otherDue : (client.limit false).outcome other = (.ok client.timeout, other) := outcome_limit client other
  obtain ⟨result, told, otherTold, ran, ranOther, same⟩ := alike.note
    { level := Level.debug, logger, message := method ++ " " ++ url, fields := [] }
  have quiet := World.idle_note ran
  have otherQuiet := World.idle_note ranOther
  cases result with
  | error failure =>
    exact ⟨.error failure, told, otherTold, [],
      (Action.outcome_bind_of_ok due).trans (Action.outcome_bind_of_error ran),
      (Action.outcome_bind_of_ok otherDue).trans (Action.outcome_bind_of_error ranOther),
      .idle same quiet otherQuiet⟩
  | ok =>
    let request : Request := { method, url, timeout, body, credentials := client.credentials }
    let there := otherTold.send network (request.within client.timeout)
    obtain ⟨reply, sameAfter⟩ := same.send ignored request client.timeout
    refine ⟨.ok (told.send network request).1, (told.send network request).2, there.2, [⟨told, request⟩],
      (Action.outcome_bind_of_ok due).trans (Action.outcome_bind_of_ok ran),
      ((Action.outcome_bind_of_ok otherDue).trans (Action.outcome_bind_of_ok ranOther)).trans
        (congrArg (fun outcome => (Except.ok outcome, there.2)) reply), sameAfter,
      .single quiet (.refl _), ?_, ?_⟩
    · rw [World.sent_send, otherQuiet.sent]
      rfl
    · -- The time limit was worked out before the message, which takes no time.
      exact List.forall_mem_singleton.mpr
        (Dispatch.isLimited_of_limit number ((quiet.limit true client.timeout).trans limited))

end Client

namespace Routine

/-- Every check that a routine comes to finds that the operation can go on. -/
def Lives (client : Client) (network : Network σ) : Routine α → World σ → Prop
  | ends _, _ => True
  | tells entry next, world =>
    ∀ after, (World.note entry).outcome world = (.ok (), after) → next.Lives client network after
  | checks next, world => world.lapse? true = none ∧ next.Lives client network world
  | sends method url body next, world =>
    ∀ outcome after, (client.dispatch network method url body true).outcome world = (.ok outcome, after) →
      (next outcome).Lives client network after

/-- A routine lives if the operation can go on in every world that it may come to. -/
theorem lives_of_invariant (fit : World σ → Prop) (going : ∀ world, fit world → world.lapse? true = none)
    (stays : ∀ world after, fit world → world.Idle after → fit after)
    (sent : ∀ world request, fit world → fit (world.send network request).2) (routine : Routine α)
    {world : World σ} (here : fit world) : routine.Lives client network world := by
  -- Induction on the routine: messages take no time, and a request comes after one.
  induction routine generalizing world with
  | ends => trivial
  | tells entry next ih => exact fun after noted => ih (stays world after here (World.idle_note noted))
  | checks next ih => exact ⟨going world here, ih here⟩
  | sends method url body next ih =>
    intro outcome after ran
    obtain ⟨timeout, limitedAt, limited, ran⟩ := Action.outcome_bind_eq_ok.mp ran
    obtain ⟨_, told, noted, ran⟩ := Action.outcome_bind_eq_ok.mp ran
    have same : limitedAt = world := congrArg Prod.snd (limited.symm.trans (Client.outcome_limit client world))
    rw [same] at noted
    cases ran
    exact ih _ (sent told _ (stays world told here (World.idle_note noted)))

/-- A routine that is never found to have to stop does the same as if it were not watched. -/
theorem transparent (number : client.timeout.isNumber = true) (ignored : network.IgnoresTimeouts)
    (routine : Routine α) {world other : World σ} (alike : world.Alike other)
    (lives : routine.Lives client network world) :
    client.Transparent network (fun watched => routine.perform client network watched) world other := by
  -- Induction on the routine: each step makes no difference, and leaves worlds that are alike.
  induction routine generalizing world other with
  | ends result => cases result <;> exact Client.transparent_of_still alike rfl rfl
  | tells entry next ih =>
    exact (Client.transparent_note alike entry).bind fun _ after _ ran same => ih same (lives after ran)
  | checks next ih =>
    refine (Client.transparent_check alike lives.1).bind fun _ after _ ran same => ih same ?_
    rw [Client.outcome_check_of_going lives.1] at ran
    cases ran
    exact lives.2
  | sends method url body next ih =>
    exact (Client.transparent_dispatch number ignored alike method url body).bind
      fun outcome after _ ran same => ih outcome same (lives outcome after ran)

end Routine

namespace Client

/-- What a client can be asked to do with servers. -/
inductive Errand : Type → Type
  | status (hosts : Value) : Errand Report
  | add (host hosts : Value) : Errand Unit
  | join (endpoints : Value) : Errand Unit

/-- Does it. -/
def Errand.perform (client : Client) (network : Network σ) (watched : Bool) :
    Errand α → Action (World σ) α
  | status hosts => client.status network hosts watched
  | add host hosts => client.add network host hosts watched
  | join endpoints => Join.join (client.plane network) endpoints watched

/-- Whatever a client is asked to do is a routine. -/
theorem Errand.isRoutine (errand : Errand α) :
    IsRoutine client fun network watched => errand.perform client network watched := by
  cases errand with
  | status hosts => exact isRoutine_status hosts
  | add host hosts => exact isRoutine_add host hosts
  | join endpoints => exact Join.isRoutine_join endpoints

/--
Whatever a client is asked to do is a routine, which does not hang on who is asked and on what can stop it.

On every network that does not care for time limits, and from every world in which no check of the routine
finds that the operation has to stop, it makes no difference whether it is watched. Both runs have the same
result or failure, send the same requests, and log the same. Only the time limit of a request may differ,
and it does only where less time is left for the operation than the client would wait.
-/
theorem perform_transparent (number : client.timeout.isNumber = true) (errand : Errand α) :
    (IsRoutine client fun network watched => errand.perform client network watched) ∧
    ∀ routine : Routine α,
      (routine.Describes client fun network watched => errand.perform client network watched) →
      ∀ {σ : Type} (network : Network σ), network.IgnoresTimeouts →
        ∀ world : World σ, routine.Lives client network world →
          client.Transparent network (fun watched => errand.perform client network watched) world world := by
  refine ⟨errand.isRoutine, fun routine described σ network ignored world lives => ?_⟩
  have same : (fun watched => errand.perform client network watched) =
      fun watched => routine.perform client network watched := funext (described network)
  rw [same]
  exact routine.transparent number ignored (.refl world) lives

set_option maxRecDepth 10000 in
/-- No time passes on the network of a pair, so an operation that has begun can always go on. -/
theorem lives_begun (routine : Routine α) :
    routine.Lives (pairOf 5) (Network.pair 0) Join.begun := by
  -- Neither the clock nor the context changes here, so the operation never has to stop.
  refine routine.lives_of_invariant (fun world => world.clock = Join.begun.clock ∧
    world.elapsed = Join.begun.elapsed ∧ world.context = Join.begun.context) ?_ ?_ ?_ ⟨rfl, rfl, rfl⟩
  · rintro world ⟨clock, elapsed, context⟩
    have going : Join.begun.lapse? true = none := by decide
    rw [← going]
    unfold World.lapse? Client.contextOf World.now
    rw [clock, elapsed, context]
  · intro world after here idle
    rw [idle.same]
    exact here
  · rintro world request ⟨clock, elapsed, context⟩
    have still : Join.begun.elapsed + 0 = Join.begun.elapsed := rfl
    exact ⟨clock, (congrArg (· + 0) elapsed).trans still, context⟩

set_option maxRecDepth 10000 in
/-- The first server of a pair cannot be reached, and the second one takes in a third. Four seconds are left
for this, while the client would wait for five. -/
theorem perform_transparent_pair :
    (pairOf 5).timeout.isNumber = true ∧ (Network.pair 0).IgnoresTimeouts ∧
    (pairOf 5).Transparent (Network.pair 0) (fun watched =>
      (Errand.add (.text "c") (.texts ["a", "b"])).perform (pairOf 5) (Network.pair 0) watched) Join.begun
      Join.begun ∧
    (((Errand.add (.text "c") (.texts ["a", "b"])).perform (pairOf 5) (Network.pair 0) true).outcome
      Join.begun).2.sent.map Request.timeout = [.float 4, .float 4] ∧
    (((Errand.add (.text "c") (.texts ["a", "b"])).perform (pairOf 5) (Network.pair 0) false).outcome
      Join.begun).2.sent.map Request.timeout = [.float 5, .float 5] := by
  have ignored : (Network.pair 0).IgnoresTimeouts := fun _ _ _ => rfl
  have number : (pairOf 5).timeout.isNumber = true := rfl
  obtain ⟨⟨routine, described⟩, transparent⟩ :=
    perform_transparent number (Errand.add (.text "c") (.texts ["a", "b"]))
  exact ⟨number, ignored, transparent routine described _ ignored _ (lives_begun routine), rfl, rfl⟩

end Client

end KeyCluster

import KeyCluster.Proofs.Http.Opening

/-! Which request decides what comes of a call to several hosts, and how. -/

namespace KeyCluster

variable {σ : Type} {network : Network σ} {watched : Bool} {method path : Text} {body : Option Value}

/-- How a request that is the last one of a call decides what comes of the call. Some other hosts are left
that could be asked. -/
inductive Dispatch.Decides (network : Network σ) (watched : Bool) (method path host : Text)
    (others : List Text) (dispatch : Dispatch σ) : Except Failure Response → Prop
  /-- An answer that is no error is what comes of the call, whether or not the operation has to stop. -/
  | accepted {response : Response} (answered : (dispatch.exchange network).outcome = .ok response)
      (fine : response.status < 400) :
      Decides network watched method path host others dispatch (.ok response)
  /-- An answer that is an error is a rejection, whether or not the operation has to stop. -/
  | rejected {response : Response} (answered : (dispatch.exchange network).outcome = .ok response)
      (error : 400 ≤ response.status) :
      Decides network watched method path host others dispatch
        (.error (.api (.rejected response.status method path host response.body)))
  /-- If the exchange breaks down and the operation has to stop then, this is why the call fails. -/
  | lapsed {failure : Failure} {kind : TransportKind} {lapse : Lapse}
      (failed : (dispatch.exchange network).outcome = .error failure)
      (broken : failure.kind = .transport kind)
      (lapsed : (dispatch.after network).lapse? watched = some lapse) :
      Decides network watched method path host others dispatch (.error lapse.failure)
  /-- Otherwise the host gave no answer. If it could not be reached, there is no other host to ask. -/
  | unanswered {failure : Failure} {kind : TransportKind}
      (failed : (dispatch.exchange network).outcome = .error failure)
      (broken : failure.kind = .transport kind)
      (going : (dispatch.after network).lapse? watched = none)
      (final : kind.isUnreachable = true → others = []) :
      Decides network watched method path host others dispatch
        (.error (.api (.unanswered host failure.message)))
  /-- What is no breakdown of the exchange is passed on. -/
  | foreign {failure : Failure} (failed : (dispatch.exchange network).outcome = .error failure)
      (unknown : ∀ kind, failure.kind ≠ .transport kind) :
      Decides network watched method path host others dispatch (.error failure)

/-- A request to a host of a list that does not decide: the host cannot be reached, and the operation can go
on. -/
def Dispatch.Misses (network : Network σ) (watched : Bool) (dispatch : Dispatch σ) : Prop :=
  (dispatch.exchange network).Unreached ∧ (dispatch.after network).lapse? watched = none

/-- The requests of a call: hosts are asked in order, none of which decides but the last. -/
structure Network.Settles (network : Network σ) (watched : Bool) (method path : Text) (body : Option Value)
    (hosts : List Text) (front : List (Dispatch σ)) (last : Dispatch σ) (result : Except Failure Response) :
    Prop where
  /-- The hosts stand in the list one after another, and those behind them are not asked. -/
  asks : ∃ before host others, hosts = before ++ host :: others ∧
    List.Forall₂ (fun host dispatch => (dispatch.exchange network).Asks method host path body)
      (before ++ [host]) (front ++ [last]) ∧
    last.Decides network watched method path host others result
  /-- The call goes on after every request in front. -/
  misses : ∀ dispatch ∈ front, dispatch.Misses network watched

namespace Network.Settles

variable {host : Text} {hosts : List Text} {front : List (Dispatch σ)} {dispatch last : Dispatch σ}
  {result : Except Failure Response}

/-- The first host decides. -/
theorem single (asks : (dispatch.exchange network).Asks method host path body)
    (decides : dispatch.Decides network watched method path host hosts result) :
    network.Settles watched method path body (host :: hosts) [] dispatch result :=
  ⟨⟨[], host, hosts, rfl, .cons asks .nil, decides⟩, by simp⟩

/-- The first host does not decide, and so the others are asked. -/
theorem cons (asks : (dispatch.exchange network).Asks method host path body)
    (misses : dispatch.Misses network watched)
    (behind : network.Settles watched method path body hosts front last result) :
    network.Settles watched method path body (host :: hosts) (dispatch :: front) last result := by
  obtain ⟨before, decider, others, rfl, asked, decides⟩ := behind.asks
  exact ⟨⟨host :: before, decider, others, rfl, .cons asks asked, decides⟩,
    List.forall_mem_cons.mpr ⟨misses, behind.misses⟩⟩

end Network.Settles

namespace Client

variable {client : Client} {world after : World σ} {failure : Failure} {result : Except Failure Response}

/-- Only a breakdown of the exchange says whether the host was reached. -/
theorem breakdown?_eq_some {unreachable : Bool} (known : breakdown? failure = some unreachable) :
    ∃ kind, failure.kind = .transport kind ∧ kind.isUnreachable = unreachable := by
  unfold breakdown? at known
  split at known
  · rename_i kind same
    exact ⟨kind, same, by simpa using known⟩
  · cases known

/-- Every other failure says nothing about it. -/
theorem breakdown?_eq_none (unknown : breakdown? failure = none) (kind : TransportKind) :
    failure.kind ≠ .transport kind := by
  intro same
  simp [breakdown?, same] at unknown

/-- Nothing keeps a client from sending a request whose time limit is a number, when the time can be
counted. -/
theorem not_hampered (number : client.timeout.isNumber = true) (timed : world.Timed) :
    ¬ client.Hampered watched world := by
  rintro (⟨_, unlimited⟩ | ⟨_, _, _, untold⟩)
  · obtain ⟨_, limited⟩ := World.exists_limit number world
    cases limited.symm.trans unlimited
  · cases untold.symm.trans (World.note_of_timed rfl timed)

/-- A request behind which none is sent is the only one of the call. -/
theorem Tries.settles {host : Text} {others : List Text} {dispatch : Dispatch σ}
    (tries : client.Tries network method path body watched host world dispatch)
    (idle : (dispatch.after network).Idle after)
    (decides : dispatch.Decides network watched method path host others result) :
    world.lapse? watched = none ∧ ∃ front last, network.Passes (front ++ [last]) world after ∧
      network.Settles watched method path body (host :: others) front last result :=
  ⟨tries.going, [], dispatch, .single tries.idle idle, .single tries.asks decides⟩

/-- Asking hosts in order ends before the first request, or one of the requests decides what comes of it. -/
theorem settles_of_askFrom {last : Text × Text} {hosts : List Text} (given : hosts ≠ [])
    (number : client.timeout.isNumber = true) (timed : after.Timed)
    (ran : (askFrom client network method path body watched last (hosts.map .text)).outcome world =
      (result, after)) :
    (∃ lapse, world.lapse? watched = some lapse ∧ world.Idle after ∧ result = .error lapse.failure) ∨
      world.lapse? watched = none ∧ ∃ front last, network.Passes (front ++ [last]) world after ∧
        network.Settles watched method path body (hosts.map Endpoint.host) front last result := by
  -- Along the hosts: an attempt is the last one, unless its host could not be reached and others are left.
  induction hosts generalizing last world with
  | nil => exact absurd rfl given
  | cons endpoint rest ih =>
    cases attempt_of_askFrom ran with
    | lapsed lapsed => exact .inl ⟨_, lapsed, .refl _, rfl⟩
    | unsent going idle hampered => exact absurd hampered (not_hampered number (idle.timed timed))
    | answered tries outcome fine =>
      exact .inr (tries.settles (.refl _) (.accepted outcome fine))
    | rejected tries outcome error =>
      exact .inr (tries.settles (.refl _) (.rejected outcome error))
    | foreign tries failed unknown =>
      exact .inr (tries.settles (.refl _) (.foreign failed (breakdown?_eq_none unknown)))
    | stopped tries broken lapsed =>
      obtain ⟨failure, _, failed, known⟩ := broken
      obtain ⟨kind, same, _⟩ := breakdown?_eq_some known
      exact .inr (tries.settles (.refl _) (.lapsed failed same lapsed))
    | broken tries failed known going =>
      obtain ⟨kind, same, reached⟩ := breakdown?_eq_some known
      exact .inr (tries.settles (.refl _) (.unanswered failed same going (by simp [reached])))
    | unheard tries unreached going idle hampered =>
      exact absurd hampered (not_hampered number (idle.timed timed))
    | @missed dispatch failure heard _ _ tries failed known going idle next =>
      have misses : dispatch.Misses network watched := ⟨Exchange.unreached_of_breakdown failed known, going⟩
      by_cases final : rest = []
      · -- There is no other host, so the last one that could not be reached is blamed.
        subst final
        cases next
        obtain ⟨kind, same, _⟩ := breakdown?_eq_some known
        exact .inr (tries.settles idle (.unanswered failed same going fun _ => rfl))
      · rcases ih final next with ⟨lapse, lapsed, _⟩ | ⟨_, front, last, passed, settles⟩
        · rw [idle.lapse?, going] at lapsed
          cases lapsed
        · exact .inr ⟨tries.going, dispatch :: front, last,
            (Network.Passes.single tries.idle idle).append passed, settles.cons tries.asks misses⟩

/--
What comes of a call to some hosts, at whatever request the operation is cancelled or runs out of time.

If the operation has to stop at the beginning, nothing is sent, and this is why the call fails. Otherwise
requests go to the hosts in order. Each of them but the last found that the host cannot be reached, while
the operation could go on. The last one decides: an answer counts even if the operation has to stop, and
without an answer it counts first whether the operation has to.
-/
theorem ask_decides (client : Client) (network : Network σ) (method path : Text) (body : Option Value)
    (hosts : List Text) (given : hosts ≠ []) (watched : Bool) (number : client.timeout.isNumber = true)
    (timed : after.Timed)
    (ran : (client.ask network method path body (.texts hosts) watched).outcome world = (result, after)) :
    (∀ lapse, world.lapse? watched = some lapse →
      after.sent = world.sent ∧ result = .error lapse.failure) ∧
    (world.lapse? watched = none → ∃ front last, network.Passes (front ++ [last]) world after ∧
      after.sent = world.sent ++ (front ++ [last]).map Dispatch.request ∧
      network.Settles watched method path body (hosts.map Endpoint.host) front last result) := by
  rw [ask_texts given] at ran
  rcases settles_of_askFrom given number timed ran with ⟨lapse, lapsed, idle, failed⟩ |
    ⟨going, front, last, passed, settles⟩
  · -- The two parts of the statement exclude each other by whether the operation has to stop before.
    refine ⟨fun other again => ?_, fun going => ?_⟩
    · cases lapsed.symm.trans again
      exact ⟨idle.sent, failed⟩
    · rw [going] at lapsed
      cases lapsed
  · refine ⟨fun lapse lapsed => ?_, fun _ => ⟨front, last, passed, passed.sent, settles⟩⟩
    rw [going] at lapsed
    cases lapsed

/-- What comes of asking the pair to take in a third server. -/
def pairAsked : Except Failure Response × World Unit :=
  (bare.ask (Network.pair 0) "POST" addPath (naming "c") (.texts ["https://a/", "b"]) false).outcome
    (World.silent 0)

/-- The first server of the pair cannot be reached, so the second one decides. -/
theorem ask_decides_pair : ∃ front last,
    pairAsked.1 = .ok { status := 200, body := Network.pairBody } ∧
      (Network.pair 0).Passes (front ++ [last]) (World.silent 0) pairAsked.2 ∧
      ((front ++ [last]).map Dispatch.request).map Request.url =
        (["https://a/v1/cluster/add", "https://b/v1/cluster/add"] : List Text) := by
  -- Nobody listens to the log, so that no time has to be counted.
  have timed : pairAsked.2.Timed := fun _ _ (heard : false = true) => nomatch heard
  have ran : (bare.ask (Network.pair 0) "POST" addPath (naming "c") (.texts ["https://a/", "b"])
      false).outcome (World.silent 0) = (pairAsked.1, pairAsked.2) := rfl
  obtain ⟨_, decided⟩ := ask_decides bare (Network.pair 0) "POST" addPath (naming "c")
    ["https://a/", "b"] (by decide) false rfl timed ran
  obtain ⟨front, last, passed, sent, _⟩ := decided rfl
  refine ⟨front, last, rfl, passed, ?_⟩
  -- Nothing was sent before.
  have urls := congrArg (List.map Request.url) sent
  exact urls.symm.trans rfl

end Client

end KeyCluster

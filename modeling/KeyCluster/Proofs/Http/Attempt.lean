import KeyCluster.Proofs.Http.Failover
import KeyCluster.Proofs.Http.Timeline

/-! Trying one host after another: how one attempt ends, and so how a request to several hosts does. -/

namespace KeyCluster

variable {σ : Type}

namespace Exchange

/-- The exchange broke down, so that another host may be tried or the end of the operation may be the reason. -/
def BrokeDown (exchange : Exchange) : Prop :=
  ∃ failure unreachable,
    exchange.outcome = .error failure ∧ Client.breakdown? failure = some unreachable

/-- What comes of an exchange is a failure by itself, whether or not the operation has to stop. -/
inductive Refuses (exchange : Exchange) : Failure → Prop
  /-- The answer is an error. -/
  | rejected {host path : Text} {response : Response}
      (address : exchange.request.url = Endpoint.scheme ++ host ++ path)
      (answered : exchange.outcome = .ok response) (error : 400 ≤ response.status) :
      Refuses exchange
        (.api (.rejected response.status exchange.request.method path host response.body))
  /-- There is no answer, for a reason that is no breakdown of the exchange. -/
  | foreign {failure : Failure} (failed : exchange.outcome = .error failure)
      (unknown : Client.breakdown? failure = none) : Refuses exchange failure
  /-- A question for the status is answered, but not by a report. -/
  | unreadable {response : Response} {failure : Failure} (question : exchange.request.method = "GET")
      (answered : exchange.outcome = .ok response) (fine : response.status < 400)
      (unread : Client.reportOf response = .error failure) : Refuses exchange failure
  /-- The report that is received names a member of a cluster by something that is no text. -/
  | misnamed {response : Response} {report : Report} {fault : ValueFault}
      (question : exchange.request.method = "GET") (answered : exchange.outcome = .ok response)
      (fine : response.status < 400) (read : Client.reportOf response = .ok report)
      (several : report.isStandalone = false) (unnamed : report.hosts = .error fault) :
      Refuses exchange (.value fault)

/-- What comes of an exchange is a failure by itself. -/
def IsRefusal (exchange : Exchange) : Prop :=
  ∃ failure, exchange.Refuses failure

variable {exchange : Exchange}

/-- Who cannot be reached lets the exchange break down. -/
theorem Unreached.brokeDown (unreached : exchange.Unreached) : exchange.BrokeDown := by
  obtain ⟨failure, kind, failed, same, _⟩ := unreached
  exact ⟨failure, kind.isUnreachable, failed, by simp [Client.breakdown?, same]⟩

/-- A host is unreachable where a breakdown says so. -/
theorem unreached_of_breakdown {failure : Failure} (failed : exchange.outcome = .error failure)
    (broken : Client.breakdown? failure = some true) : exchange.Unreached := by
  -- Only failures of the transport are breakdowns, and their kind says which hosts were not reached.
  unfold Client.breakdown? at broken
  split at broken
  · rename_i kind same
    exact ⟨failure, kind, failed, same, by simpa using broken⟩
  · cases broken

/-- A breakdown is no failure by itself. -/
theorem BrokeDown.not_refusal (broken : exchange.BrokeDown) : ¬ exchange.IsRefusal := by
  obtain ⟨failure, unreachable, failed, known⟩ := broken
  rintro ⟨_, refuses⟩
  -- Every other reason to fail speaks of an answer.
  cases refuses with
  | foreign other unknown =>
    rw [failed] at other
    cases other
    rw [known] at unknown
    cases unknown
  | _ =>
    rename_i answered _
    simp_all

end Exchange

/-- An exchange that breaks down is not accepted. -/
theorem Exchange.BrokeDown.not_accepted {exchange : Exchange} (broken : exchange.BrokeDown) :
    ¬ exchange.Accepted := by
  obtain ⟨_, _, failed, _⟩ := broken
  rintro ⟨_, answered, _⟩
  rw [failed] at answered
  cases answered

/-- How dispatches end that end with a failure: if the operation has to stop then, the failure says so,
unless the last exchange is a failure by itself. -/
def Network.Ends (network : Network σ) (watched : Bool) (dispatches : List (Dispatch σ)) (after : World σ)
    (failure : Failure) : Prop :=
  -- If the operation can go on, nothing is said about the failure.
  ∀ lapse, after.lapse? watched = some lapse →
    (∃ last ∈ dispatches.getLast?, (last.exchange network).Refuses failure) ∨
      (∀ last ∈ dispatches.getLast?, ¬ (last.exchange network).IsRefusal) ∧ failure = lapse.failure

/-- Nothing is said about the failure of an operation that can go on. -/
theorem Network.Ends.of_going {network : Network σ} {watched : Bool} {dispatches : List (Dispatch σ)}
    {after : World σ} {failure : Failure} (going : after.lapse? watched = none) :
    network.Ends watched dispatches after failure := by
  intro lapse lapsed
  rw [going] at lapsed
  cases lapsed

/-- Dispatches in front change nothing, unless one of them is the last and a failure by itself. -/
theorem Network.Ends.behind {network : Network σ} {watched : Bool} {front rest : List (Dispatch σ)}
    {after : World σ} {failure : Failure} (ends : network.Ends watched rest after failure)
    (fine : ∀ last ∈ front.getLast?, ¬ (last.exchange network).IsRefusal) :
    network.Ends watched (front ++ rest) after failure := by
  intro lapse lapsed
  -- An end by a refusal speaks of the last dispatch only, and so does the other end.
  rcases ends lapse lapsed with ⟨last, isLast, refuses⟩ | ⟨passable, same⟩
  · exact .inl ⟨last, by simp_all [List.getLast?_append], refuses⟩
  · -- The last one of all is the last one of the rest, if there is a rest.
    refine .inr ⟨fun last isLast => ?_, same⟩
    rw [List.getLast?_append, Option.mem_def, Option.or_eq_some_iff] at isLast
    rcases isLast with isLast | ⟨_, isLast⟩
    · exact passable last isLast
    · exact fine last isLast

/-- A request to a host is sent in time. -/
structure Client.Tries (client : Client) (network : Network σ) (method path : Text) (body : Option Value)
    (watched : Bool) (host : Text) (world : World σ) (dispatch : Dispatch σ) : Prop where
  /-- Nothing comes in between. -/
  idle : world.Idle dispatch.before
  /-- The operation need not stop before. -/
  inTime : dispatch.InTime watched client.timeout
  /-- The request is the one to this host. -/
  asks : (dispatch.exchange network).Asks method host path body

/-- A client could go on, but no time limit can be worked out, or the log does not take a message. -/
def Client.Hampered (client : Client) (watched : Bool) (world : World σ) : Prop :=
  (∃ fault, world.limit watched client.timeout = .error fault) ∨
    ∃ message failure after, (note message).outcome world = (.error failure, after)

/-- How an attempt with one host goes on, given the others. -/
inductive Client.Attempt (client : Client) (network : Network σ) (method path : Text)
    (body : Option Value) (watched : Bool) (host : Text) (rest : List Value) (world : World σ) :
    Except Failure Response → World σ → Prop
  /-- The operation has to stop before the request. -/
  | lapsed {lapse : Lapse} (lapsed : world.lapse? watched = some lapse) :
      Attempt client network method path body watched host rest world (.error lapse.failure) world
  /-- No request is sent, though the operation can go on. -/
  | unsent {failure : Failure} {after : World σ} (going : world.lapse? watched = none)
      (idle : world.Idle after) (hampered : client.Hampered watched world) :
      Attempt client network method path body watched host rest world (.error failure) after
  /-- The host answers, and the answer is no error. -/
  | answered {dispatch : Dispatch σ} {response : Response}
      (tries : client.Tries network method path body watched host world dispatch)
      (outcome : (dispatch.exchange network).outcome = .ok response) (fine : response.status < 400) :
      Attempt client network method path body watched host rest world (.ok response)
        (dispatch.after network)
  /-- The host answers with an error. -/
  | rejected {dispatch : Dispatch σ} {response : Response}
      (tries : client.Tries network method path body watched host world dispatch)
      (outcome : (dispatch.exchange network).outcome = .ok response) (error : 400 ≤ response.status) :
      Attempt client network method path body watched host rest world
        (.error (.api (.rejected response.status method path host response.body)))
        (dispatch.after network)
  /-- There is no answer, for a reason that is no breakdown of the exchange. -/
  | foreign {dispatch : Dispatch σ} {failure : Failure}
      (tries : client.Tries network method path body watched host world dispatch)
      (failed : (dispatch.exchange network).outcome = .error failure)
      (unknown : breakdown? failure = none) :
      Attempt client network method path body watched host rest world (.error failure)
        (dispatch.after network)
  /-- The exchange breaks down, and the operation has to stop. -/
  | stopped {dispatch : Dispatch σ} {lapse : Lapse}
      (tries : client.Tries network method path body watched host world dispatch)
      (broken : (dispatch.exchange network).BrokeDown)
      (lapsed : (dispatch.after network).lapse? watched = some lapse) :
      Attempt client network method path body watched host rest world (.error lapse.failure)
        (dispatch.after network)
  /-- The exchange breaks down, though the host could be reached. -/
  | broken {dispatch : Dispatch σ} {failure : Failure}
      (tries : client.Tries network method path body watched host world dispatch)
      (failed : (dispatch.exchange network).outcome = .error failure)
      (known : breakdown? failure = some false)
      (going : (dispatch.after network).lapse? watched = none) :
      Attempt client network method path body watched host rest world
        (.error (.api (.unanswered host failure.message))) (dispatch.after network)
  /-- The host cannot be reached, and the log does not take the message about it. -/
  | unheard {dispatch : Dispatch σ} {failure : Failure} {after : World σ}
      (tries : client.Tries network method path body watched host world dispatch)
      (unreached : (dispatch.exchange network).Unreached)
      (going : (dispatch.after network).lapse? watched = none)
      (idle : (dispatch.after network).Idle after)
      (hampered : client.Hampered watched (dispatch.after network)) :
      Attempt client network method path body watched host rest world (.error failure) after
  /-- The host cannot be reached, and the others are tried. -/
  | missed {dispatch : Dispatch σ} {failure : Failure} {heard after : World σ}
      {result : Except Failure Response}
      (tries : client.Tries network method path body watched host world dispatch)
      (failed : (dispatch.exchange network).outcome = .error failure)
      (known : breakdown? failure = some true)
      (going : (dispatch.after network).lapse? watched = none)
      (idle : (dispatch.after network).Idle heard)
      (next : (askFrom client network method path body watched (host, failure.message) rest).outcome heard =
        (result, after)) :
      Attempt client network method path body watched host rest world result after

namespace Client

variable {client : Client} {network : Network σ} {method path : Text} {body : Option Value}
  {watched : Bool} {host : Text} {world after : World σ}

/-- An answer is accepted as it is, or it is an error. -/
theorem outcome_accept (response : Response) :
    (accept method path host response).outcome world =
      (if 400 ≤ response.status then
        .error (.api (.rejected response.status method path host response.body))
      else .ok response, world) := by
  rw [accept]
  split <;> rfl

/-- Of all failures only that to reach the host lets the others be tried, unless the operation has to stop. -/
theorem attempt_of_failure {dispatch : Dispatch σ} {failure : Failure} {rest : List Value}
    {result : Except Failure Response}
    (tries : client.Tries network method path body watched host world dispatch)
    (failed : (dispatch.exchange network).outcome = .error failure)
    (ran : (match breakdown? failure with
      | none => throw failure
      | some unreachable => do
        check watched
        if unreachable then
          note ("Host " ++ host ++ " unreachable: " ++ failure.message)
          askFrom client network method path body watched (host, failure.message) rest
        else throw (.api (.unanswered host failure.message)) : Action (World σ) Response).outcome
        (dispatch.after network) = (result, after)) :
    Attempt client network method path body watched host rest world result after := by
  -- Whether the failure is a breakdown decides if anything else is looked at.
  cases known : breakdown? failure with
  | none =>
    rw [known] at ran
    cases ran
    exact .foreign tries failed known
  | some unreachable =>
    simp only [known] at ran
    -- After a breakdown, the operation has to stop or it goes on.
    cases going : (dispatch.after network).lapse? watched with
    | some lapse =>
      rw [Action.outcome_bind_of_error (outcome_check_of_lapse going)] at ran
      cases ran
      exact .stopped tries ⟨failure, unreachable, failed, known⟩ going
    | none =>
    rw [Action.outcome_bind_of_ok (outcome_check_of_going going)] at ran
    cases unreachable with
    | false =>
      cases ran
      exact .broken tries failed known going
    | true =>
      rw [if_pos rfl] at ran
      rcases noted : (note ("Host " ++ host ++ " unreachable: " ++ failure.message)).outcome
        (dispatch.after network) with ⟨_ | _, heard⟩
      · rw [Action.outcome_bind_of_error noted] at ran
        cases ran
        exact .unheard tries (Exchange.unreached_of_breakdown failed known) going (World.idle_note noted)
          (.inr ⟨_, _, _, noted⟩)
      · rw [Action.outcome_bind_of_ok noted] at ran
        exact .missed tries failed known going (World.idle_note noted) ran

/-- Asking hosts in order begins with an attempt with the first one. -/
theorem attempt_of_askFrom {last : Text × Text} {endpoint : Text} {rest : List Value}
    {result : Except Failure Response}
    (ran : (askFrom client network method path body watched last (.text endpoint :: rest)).outcome world =
      (result, after)) :
    Attempt client network method path body watched (Endpoint.host endpoint) rest world result after := by
  rw [askFrom, Action.outcome_bind_of_ok (by rfl)] at ran
  -- The operation has to stop before the request, or it goes on.
  cases going : world.lapse? watched with
  | some lapse =>
    rw [Action.outcome_bind_of_error (outcome_check_of_lapse going)] at ran
    cases ran
    exact .lapsed going
  | none =>
  rw [Action.outcome_bind_of_ok (outcome_check_of_going going)] at ran
  -- The time limit is worked out before the message, and either can fail without a request.
  cases limited : world.limit watched client.timeout with
  | error fault =>
    rw [Action.outcome_bind_of_error (by rw [outcome_limit, limited]; rfl)] at ran
    cases ran
    exact .unsent going (.refl world) (.inl ⟨fault, limited⟩)
  | ok timeout =>
  rw [Action.outcome_bind_of_ok (by rw [outcome_limit, limited]; rfl)] at ran
  rcases noted : (note (method ++ " " ++ (Endpoint.scheme ++ Endpoint.host endpoint ++ path))).outcome
    world with ⟨_ | _, told⟩
  · rw [Action.outcome_bind_of_error noted] at ran
    cases ran
    exact .unsent going (World.idle_note noted) (.inr ⟨_, _, _, noted⟩)
  have idle := World.idle_note noted
  rw [Action.outcome_bind_of_ok noted] at ran
  -- What the message leaves is the state in which the request is sent.
  obtain ⟨request, same⟩ : ∃ request : Request, request =
      { method := method, url := Endpoint.scheme ++ Endpoint.host endpoint ++ path, timeout := timeout,
        body := body, credentials := client.credentials } := ⟨_, rfl⟩
  let dispatch : Dispatch σ := { before := told, request }
  have tries : client.Tries network method path body watched (Endpoint.host endpoint) world dispatch := by
    refine ⟨idle, ⟨by rw [idle.lapse?, going], ?_⟩, ?_⟩
    · rw [idle.limit, limited]
      exact congrArg (Except.ok ∘ Request.timeout) same.symm
    · exact ⟨congrArg Request.method same, congrArg Request.url same, congrArg Request.body same⟩
  have sent : (send network request).outcome told =
    (.ok (dispatch.exchange network).outcome, dispatch.after network) := rfl
  rw [← same, Action.outcome_bind_of_ok sent] at ran
  -- What comes of the request, together with the status, leaves one rule each.
  cases outcome : (dispatch.exchange network).outcome with
  | error failure =>
    rw [outcome] at ran
    exact attempt_of_failure tries outcome ran
  | ok response =>
    rw [outcome] at ran
    simp only [outcome_accept] at ran
    by_cases error : 400 ≤ response.status
    · rw [if_pos error] at ran
      cases ran
      exact .rejected tries outcome error
    · rw [if_neg error] at ran
      cases ran
      exact .answered tries outcome (by omega)

/-- Hosts are asked in order, and the answer is that of the first one that can be reached. -/
theorem askFrom_eq_ok {last : Text × Text} {hosts : List Text} {response : Response}
    (ran : (askFrom client network method path body watched last (hosts.map .text)).outcome world =
      (.ok response, after)) :
    ∃ dispatches, network.Passes dispatches world after ∧
      (∀ dispatch ∈ dispatches, dispatch.InTime watched client.timeout) ∧
      Failover method path body (hosts.map Endpoint.host)
        (dispatches.map (Dispatch.exchange network)) ∧
      ∃ last ∈ dispatches.getLast?, (last.exchange network).outcome = .ok response := by
  -- Each host that cannot be reached is one more exchange in front of those with the others.
  induction hosts generalizing last world with
  | nil => cases ran
  | cons endpoint rest ih =>
    cases attempt_of_askFrom ran with
    | @answered dispatch _ tries outcome fine =>
      refine ⟨[dispatch], .single tries.idle (.refl _), by simpa using tries.inTime,
        .single tries.asks ⟨response, outcome, fine⟩, dispatch, rfl, outcome⟩
    | @missed dispatch _ _ _ _ tries failed known going idle next =>
      obtain ⟨dispatches, passed, punctual, behind, last, isLast, answered⟩ := ih next
      have unreached := Exchange.unreached_of_breakdown failed known
      refine ⟨dispatch :: dispatches, (Network.Passes.single tries.idle idle).append passed,
        List.forall_mem_cons.mpr ⟨tries.inTime, punctual⟩, .cons tries.asks unreached behind, last, ?_,
        answered⟩
      rw [List.getLast?_cons, isLast]
      rfl

/-- Who tries could go on before. -/
theorem Tries.going {dispatch : Dispatch σ}
    (tries : client.Tries network method path body watched host world dispatch) :
    world.lapse? watched = none := by
  rw [← tries.idle.lapse?, tries.inTime.going]

/-- One request that is not accepted, after which no other is sent. -/
theorem Tries.alone {dispatch : Dispatch σ} {failure : Failure}
    (tries : client.Tries network method path body watched host world dispatch)
    (idle : (dispatch.after network).Idle after) (declined : ¬ (dispatch.exchange network).Accepted)
    (ends : network.Ends watched [dispatch] after failure) :
    ∃ dispatches, network.Passes dispatches world after ∧
      (∀ dispatch ∈ dispatches, dispatch.InTime watched client.timeout) ∧
      (∀ dispatch ∈ dispatches, dispatch.request.method = method ∧ ¬ (dispatch.exchange network).Accepted) ∧
      network.Ends watched dispatches after failure :=
  ⟨[dispatch], .single tries.idle idle, by simpa using tries.inTime,
    by simpa using ⟨tries.asks.1, declined⟩, ends⟩

/-- Hosts are asked in order until something fails. -/
theorem askFrom_eq_error {last : Text × Text} {hosts : List Text} {failure : Failure}
    (waiting : hosts = [] → world.lapse? watched = none)
    (ran : (askFrom client network method path body watched last (hosts.map .text)).outcome world =
      (.error failure, after)) :
    ∃ dispatches, network.Passes dispatches world after ∧
      (∀ dispatch ∈ dispatches, dispatch.InTime watched client.timeout) ∧
      (∀ dispatch ∈ dispatches, dispatch.request.method = method ∧ ¬ (dispatch.exchange network).Accepted) ∧
      network.Ends watched dispatches after failure := by
  -- One case for each way in which the first host can end the asking; only the last one goes on to the others.
  induction hosts generalizing last world with
  | nil =>
    cases ran
    refine ⟨[], .idle (.refl _), by simp, by simp, ?_⟩
    simp [Network.Ends, waiting rfl]
  | cons endpoint rest ih =>
    cases attempt_of_askFrom ran with
    | lapsed lapsed =>
      refine ⟨[], .idle (.refl _), by simp, by simp, fun lapse again => .inr ⟨by simp, ?_⟩⟩
      cases lapsed.symm.trans again
      rfl
    | unsent going idle =>
      exact ⟨[], .idle idle, by simp, by simp, .of_going (by rw [idle.lapse?, going])⟩
    | @rejected dispatch response tries outcome error =>
      have refuses := Exchange.Refuses.rejected tries.asks.2.1 outcome error
      rw [tries.asks.1] at refuses
      refine tries.alone (.refl _) (fun ⟨_, answered, fine⟩ => ?_) fun _ _ => .inl ⟨dispatch, rfl, refuses⟩
      cases outcome.symm.trans answered
      omega
    | @foreign dispatch _ tries failed unknown =>
      refine tries.alone (.refl _) (fun ⟨_, answered, _⟩ => ?_) fun _ _ =>
        .inl ⟨dispatch, rfl, .foreign failed unknown⟩
      cases failed.symm.trans answered
    | stopped tries broken lapsed =>
      refine tries.alone (.refl _) broken.not_accepted fun lapse again => .inr ⟨?_, ?_⟩
      · simpa using broken.not_refusal
      · cases lapsed.symm.trans again
        rfl
    | broken tries failed known going =>
      exact tries.alone (.refl _) (Exchange.BrokeDown.not_accepted ⟨_, _, failed, known⟩) (.of_going going)
    | unheard tries unreached going idle =>
      exact tries.alone idle unreached.brokeDown.not_accepted (.of_going (by rw [idle.lapse?, going]))
    | @missed dispatch _ _ _ _ tries failed known going idle next =>
      obtain ⟨dispatches, passed, punctual, declined, ends⟩ := ih (fun _ => by rw [idle.lapse?, going]) next
      have broken : (dispatch.exchange network).BrokeDown := ⟨_, _, failed, known⟩
      have fine : ∀ last ∈ [dispatch].getLast?, ¬ (last.exchange network).IsRefusal := by
        simpa using broken.not_refusal
      exact ⟨dispatch :: dispatches, (Network.Passes.single tries.idle idle).append passed,
        List.forall_mem_cons.mpr ⟨tries.inTime, punctual⟩,
        List.forall_mem_cons.mpr ⟨⟨tries.asks.1, broken.not_accepted⟩, declined⟩, ends.behind fine⟩

/-- Asking some hosts is asking them in order. -/
theorem ask_texts {hosts : List Text} (some : hosts ≠ []) :
    ask client network method path body (.texts hosts) watched =
      askFrom client network method path body watched ("", "None") (hosts.map .text) := by
  have given : (Value.texts hosts).isGiven = true := by simpa [Value.texts, Value.isGiven] using some
  rw [ask, given]
  rfl

/-- A request goes to some hosts in order, and the answer is that of the first one that can be reached. -/
theorem ask_eq_ok {hosts : List Text} {response : Response}
    (ran : (ask client network method path body (.texts hosts) watched).outcome world =
      (.ok response, after)) :
    ∃ dispatches, network.Passes dispatches world after ∧
      (∀ dispatch ∈ dispatches, dispatch.InTime watched client.timeout) ∧
      Failover method path body (hosts.map Endpoint.host)
        (dispatches.map (Dispatch.exchange network)) ∧
      ∃ last ∈ dispatches.getLast?, (last.exchange network).outcome = .ok response := by
  by_cases none : hosts = []
  · -- Without a host there is nobody to ask.
    rw [none] at ran
    cases ran
  · rw [ask_texts none] at ran
    exact askFrom_eq_ok ran

/-- A request goes to some hosts in order, until something fails. -/
theorem ask_eq_error {hosts : List Text} {failure : Failure} (some : hosts ≠ [])
    (ran : (ask client network method path body (.texts hosts) watched).outcome world =
      (.error failure, after)) :
    ∃ dispatches, network.Passes dispatches world after ∧
      (∀ dispatch ∈ dispatches, dispatch.InTime watched client.timeout) ∧
      (∀ dispatch ∈ dispatches, dispatch.request.method = method ∧ ¬ (dispatch.exchange network).Accepted) ∧
      network.Ends watched dispatches after failure := by
  rw [ask_texts some] at ran
  exact askFrom_eq_error (fun none => absurd none some) ran

end Client

end KeyCluster

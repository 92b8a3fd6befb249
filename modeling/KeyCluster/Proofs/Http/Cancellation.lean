import KeyCluster.Proofs.Cluster.Breakage
import KeyCluster.Proofs.Http.Wire

/-! What becomes of a joining whose operation is cancelled or runs out of time. -/

namespace KeyCluster

variable {σ : Type}

/-- Whether a call is given the context of the operation. -/
def Call.watched : Call → Bool
  | .status _ watched | .add _ _ watched => watched

/-- Whether a host is taken in: a server is asked to do so, and its answer is no error. -/
def Exchange.takesIn (exchange : Exchange) : Bool :=
  exchange.request.method == "POST" && match exchange.outcome with
    | .ok response => decide (response.status < 400)
    | .error _ => false

namespace Exchange

variable {exchange : Exchange}

/-- A host is taken in when a request for it is accepted. -/
theorem takesIn_iff : exchange.takesIn = true ↔ exchange.request.method = "POST" ∧ exchange.Accepted := by
  unfold takesIn Accepted
  cases exchange.outcome <;> simp

/-- A question for the status takes in nobody. -/
theorem not_takesIn_of_get (question : exchange.request.method = "GET") : exchange.takesIn = false := by
  rw [takesIn, question]
  rfl

/-- What is accepted is a failure by itself only if it is a report that discovery cannot go by. -/
theorem Refuses.of_accepted {failure : Failure} {response : Response} (refuses : exchange.Refuses failure)
    (answered : exchange.outcome = .ok response) (fine : response.status < 400) :
    exchange.request.method = "GET" ∧
      ∀ report, Client.reportOf response = .ok report → ¬ report.IsUsable := by
  -- An accepted answer is neither an error nor a failure, so there are two rules left.
  cases refuses with
  | rejected _ other error =>
    rw [answered] at other
    cases other
    omega
  | foreign other _ =>
    rw [answered] at other
    cases other
  | unreadable question other _ unread =>
    rw [answered] at other
    cases other
    exact ⟨question, by simp [unread]⟩
  | misnamed question other _ read several unnamed =>
    rw [answered] at other
    cases other
    refine ⟨question, fun report same => ?_⟩
    rw [read] at same
    cases same
    rintro (alone | ⟨names, named⟩)
    · simp [several] at alone
    · simp [unnamed] at named

end Exchange

namespace Failover

variable {path : Text} {body : Option Value} {hosts : List Text} {run : List Exchange}

/-- The last one accepts. -/
theorem accepted {σ : Type} {network : Network σ} {method : Text} {dispatches : List (Dispatch σ)}
    {last : Dispatch σ}
    (failover : Failover method path body hosts (dispatches.map (Dispatch.exchange network)))
    (isLast : last ∈ dispatches.getLast?) : (last.exchange network).Accepted := by
  obtain ⟨missed, final, _, run, _, _, _, accepted⟩ := failover
  have same := congrArg List.getLast? run
  rw [List.getLast?_map, isLast, List.getLast?_concat] at same
  cases same
  exact accepted

/-- Questions take in nobody. -/
theorem countP_takesIn_get (failover : Failover "GET" path body hosts run) :
    run.countP Exchange.takesIn = 0 := by
  refine List.countP_eq_zero.mpr fun exchange inside => ?_
  obtain ⟨_, _, question, _⟩ := failover.exists_asks inside
  simp [Exchange.not_takesIn_of_get question]

/-- A request to take in a host takes in one. -/
theorem countP_takesIn_post (failover : Failover "POST" path body hosts run) :
    run.countP Exchange.takesIn = 1 := by
  -- Who accepts is the last, and none in front of it was reached.
  have asked : ∀ exchange ∈ run, exchange.request.method = "POST" := fun exchange inside => by
    obtain ⟨_, _, asks⟩ := failover.exists_asks inside
    exact asks.1
  obtain ⟨missed, last, _, rfl, _, _, failed, accepted⟩ := failover
  have silent : missed.countP Exchange.takesIn = 0 := List.countP_eq_zero.mpr fun exchange inside taken =>
    (failed exchange inside).brokeDown.not_accepted (Exchange.takesIn_iff.mp taken).2
  have taken : last.takesIn = true := Exchange.takesIn_iff.mpr ⟨asked last (by simp), accepted⟩
  rw [List.countP_append, silent, List.countP_singleton, if_pos taken]

end Failover

/-- Dispatches that are part of a success: all are sent in time, what the last one comes to is no failure by
itself, and some hosts are taken in. -/
structure Network.Smooth (network : Network σ) (watched : Bool) (most : Value) (taken : Nat)
    (dispatches : List (Dispatch σ)) : Prop where
  punctual : ∀ dispatch ∈ dispatches, dispatch.InTime watched most
  /-- The last answer can be gone by. -/
  passable : ∀ last ∈ dispatches.getLast?,
    (last.exchange network).Accepted ∧ ¬ (last.exchange network).IsRefusal
  /-- So many hosts are taken in. -/
  count : (dispatches.map (Dispatch.exchange network)).countP Exchange.takesIn = taken

namespace Network.Smooth

variable {network : Network σ} {watched : Bool} {most : Value} {taken more : Nat}
  {front rest : List (Dispatch σ)}

/-- Two stretches of success make a longer one. -/
theorem append (first : network.Smooth watched most taken front)
    (second : network.Smooth watched most more rest) :
    network.Smooth watched most (taken + more) (front ++ rest) where
  punctual dispatch inside := by
    rcases List.mem_append.mp inside with inside | inside
    · exact first.punctual dispatch inside
    · exact second.punctual dispatch inside
  -- The last dispatch of both is that of the second part, unless this is empty.
  passable last isLast := by
    rw [List.getLast?_append, Option.mem_def, Option.or_eq_some_iff] at isLast
    rcases isLast with isLast | ⟨_, isLast⟩
    · exact second.passable last isLast
    · exact first.passable last isLast
  count := by rw [List.map_append, List.countP_append, first.count, second.count]

/-- Segments that take in equally many hosts each take in a multiple of that. -/
theorem flatten {segments : List (List (Dispatch σ))}
    (smooth : ∀ segment ∈ segments, network.Smooth watched most taken segment) :
    network.Smooth watched most (segments.length * taken) segments.flatten := by
  -- Every segment counts the same number of hosts, so the sum is a product.
  induction segments with
  | nil => exact ⟨by simp, by simp, by simp⟩
  | cons segment others ih =>
    obtain ⟨here, behind⟩ := List.forall_mem_cons.mp smooth
    rw [List.length_cons, Nat.succ_mul, Nat.add_comm]
    exact here.append (ih behind)

end Network.Smooth

/-- Whatever the log hears now has a time that can be counted. -/
def World.Timed (world : World σ) : Prop :=
  ∀ logger level, world.hears logger level = true →
    ∃ instant, (Instant.point world.timeOfDay).accept = .ok instant

/-- An idle time does not change what can be counted. -/
theorem World.Idle.timed {before after : World σ} (idle : before.Idle after) (timed : after.Timed) :
    before.Timed := by
  rw [idle.same] at timed
  exact timed

/-- A message whose facts have free names is taken by the log when its time can be counted. -/
theorem World.note_of_timed {world : World σ} {entry : Entry} (free : entry.isFree = true)
    (timed : world.Timed) :
    (note entry).outcome world = (.ok (), world.record (.logged world.timeOfDay entry)) := by
  -- The log takes a message whose time can be counted and whose facts have names of their own.
  rw [note, Action.outcome_bind_of_ok (Action.outcome_get world)]
  split
  · rename_i heard
    obtain ⟨instant, counted⟩ := timed _ _ heard
    have none : entry.fields.find? (fun field => Record.reserved.contains field.1) = none := by
      simpa [Entry.isFree] using free
    have taken : (Record.ofEntry world.timeOfDay entry).accept = .ok (Record.ofEntry world.timeOfDay entry) := by
      simp only [Record.accept, Record.ofEntry, counted, none]
      rfl
    rw [taken]
    rfl
  · rfl

namespace Client

variable {client : Client} {network : Network σ} {watched : Bool} {world after : World σ}
  {failure : Failure}

/-- The dispatches of a call that succeeds. -/
def keeps (client : Client) (network : Network σ) (call : Call) (dispatches : List (Dispatch σ)) : Prop :=
  -- Their exchanges are those of the call, and all are sent in time.
  mark call (dispatches.map (Dispatch.exchange network)) ∧
    ∀ dispatch ∈ dispatches, dispatch.InTime call.watched client.timeout

/-- The last of some dispatches brings a report. -/
def brings (network : Network σ) (dispatches : List (Dispatch σ)) (report : Report) : Prop :=
  ∃ last ∈ dispatches.getLast?, (last.exchange network).Reports report

/-- The dispatches of a call that fails. -/
structure Breaks (client : Client) (network : Network σ) (call : Call) (dispatches : List (Dispatch σ))
    (after : World σ) (failure : Failure) : Prop where
  punctual : ∀ dispatch ∈ dispatches, dispatch.InTime call.watched client.timeout
  none : (dispatches.map (Dispatch.exchange network)).countP Exchange.takesIn = 0
  /-- If the operation has to stop, the failure says so, unless the last exchange is one by itself. -/
  ends : network.Ends call.watched dispatches after failure

/-- A question for the status fails like the request that it takes, or because its answer is no report. -/
theorem status_eq_error {hosts : List Text} (some : hosts ≠ [])
    (ran : (client.status network (.texts hosts) watched).outcome world = (.error failure, after)) :
    ∃ dispatches, network.Passes dispatches world after ∧
      client.Breaks network (.status hosts watched) dispatches after failure := by
  -- Either no host gives an answer, or the answer is no report.
  rcases Action.outcome_bind_eq_error.mp ran with failed | ⟨response, _, asked, _⟩
  · obtain ⟨dispatches, passed, punctual, declined, ends⟩ := ask_eq_error some failed
    refine ⟨dispatches, passed, punctual, List.countP_eq_zero.mpr fun exchange inside => ?_, ends⟩
    obtain ⟨dispatch, isDispatch, rfl⟩ := List.mem_map.mp inside
    have question : (dispatch.exchange network).request.method = "GET" := (declined dispatch isDispatch).1
    simp [Exchange.not_takesIn_of_get question]
  · obtain ⟨read, rfl⟩ := Prod.mk.inj ((outcome_status asked).symm.trans ran)
    obtain ⟨dispatches, passed, punctual, failover, last, isLast, answered⟩ := ask_eq_ok asked
    have inside := List.mem_map_of_mem (f := Dispatch.exchange network) (List.mem_of_mem_getLast? isLast)
    obtain ⟨_, _, question, _⟩ := failover.exists_asks inside
    obtain ⟨_, other, fine⟩ := failover.accepted isLast
    rw [answered] at other
    cases other
    exact ⟨dispatches, passed, punctual, failover.countP_takesIn_get, fun _ _ =>
      .inl ⟨last, isLast, .unreadable question answered fine read⟩⟩

/-- A request to take in a host fails like the request that it takes. -/
theorem add_eq_error {host : Text} {hosts : List Text} (some : hosts ≠ [])
    (ran : (client.add network (.text host) (.texts hosts) watched).outcome world =
      (.error failure, after)) :
    ∃ dispatches, network.Passes dispatches world after ∧
      client.Breaks network (.add host hosts watched) dispatches after failure := by
  -- What a host answers to a request to take in another one is not read.
  rw [add, Action.outcome_bind_of_ok (by rfl)] at ran
  change (ask client network "POST" addPath _ (.texts hosts) watched >>= fun _ =>
    pure PUnit.unit).outcome world = _ at ran
  have failed := Action.outcome_bind_pure_eq_error.mp ran
  obtain ⟨dispatches, passed, punctual, declined, ends⟩ := ask_eq_error some failed
  refine ⟨dispatches, passed, punctual, List.countP_eq_zero.mpr fun exchange inside taken => ?_, ends⟩
  obtain ⟨dispatch, isDispatch, rfl⟩ := List.mem_map.mp inside
  exact (declined dispatch isDispatch).2 (Exchange.takesIn_iff.mp taken).2

/-- What every call to servers leaves on the timeline of the network. -/
theorem plane_accounts (client : Client) (network : Network σ) :
    (client.plane network).Accounts network.timeline (client.keeps network) (brings network)
      (client.Breaks network) where
  status answered := by
    obtain ⟨dispatches, passed, punctual, failover, brought⟩ := status_eq_ok answered
    exact ⟨dispatches, passed, ⟨failover, punctual⟩, brought⟩
  add accepted := by
    obtain ⟨dispatches, passed, punctual, failover⟩ := add_eq_ok accepted
    exact ⟨dispatches, passed, failover, punctual⟩
  note noted := .idle (World.idle_note noted)
  statusBreaks failed := status_eq_error (by simp) failed
  addBreaks some failed := add_eq_error some failed

/-- A question whose answer discovery can go by is part of a success. -/
theorem smooth_of_status {hosts : List Text} {dispatches : List (Dispatch σ)}
    (used : Discovery.Used (client.keeps network) (brings network) (.status hosts watched) dispatches) :
    network.Smooth watched client.timeout 0 dispatches := by
  -- The last exchange of a question brought a usable report, so it was no refusal.
  obtain ⟨⟨failover, punctual⟩, report, ⟨_, brought, _, response, answered, read⟩, usable⟩ := used
  refine ⟨punctual, fun last isLast => ?_, Failover.countP_takesIn_get failover⟩
  cases brought.symm.trans isLast
  have accepted := Failover.accepted failover isLast
  refine ⟨accepted, fun ⟨_, refuses⟩ => ?_⟩
  obtain ⟨_, other, fine⟩ := accepted
  rw [answered] at other
  cases other
  exact (refuses.of_accepted answered fine).2 report read usable

/-- A request to take in a host that succeeds is part of a success. -/
theorem smooth_of_add {host : Text} {hosts : List Text} {dispatches : List (Dispatch σ)}
    (kept : client.keeps network (.add host hosts watched) dispatches) :
    network.Smooth watched client.timeout 1 dispatches := by
  obtain ⟨failover, punctual⟩ := kept
  refine ⟨punctual, fun last isLast => ?_, failover.countP_takesIn_post⟩
  have inside := List.mem_map_of_mem (f := Dispatch.exchange network) (List.mem_of_mem_getLast? isLast)
  have accepted := failover.accepted isLast
  obtain ⟨_, _, posted, _⟩ := failover.exists_asks inside
  refine ⟨accepted, fun ⟨_, refuses⟩ => ?_⟩
  obtain ⟨_, answered, fine⟩ := accepted
  -- Only the answer to a question can be of no use.
  have question := (refuses.of_accepted answered fine).1
  rw [posted] at question
  exact absurd question (by decide)

/-- Calls that are part of a success are so together. -/
theorem smooth_of_made {mark : Call → List (Dispatch σ) → Prop} {calls : List Call} {taken : Nat}
    {before : World σ}
    (smooth : ∀ call ∈ calls, ∀ segment, mark call segment →
      network.Smooth watched client.timeout taken segment)
    (made : network.timeline.Made mark calls before after) :
    ∃ dispatches, network.Passes dispatches before after ∧
      network.Smooth watched client.timeout (calls.length * taken) dispatches := by
  -- The segments follow one another, and each of them runs smoothly.
  obtain ⟨segments, told, marked⟩ := made
  refine ⟨segments.flatten, told, ?_⟩
  rw [marked.length_eq]
  refine .flatten fun segment inside => ?_
  obtain ⟨call, isCall, left⟩ := exists_left_of_mem marked inside
  exact smooth call isCall segment left

/-- Calls that end with one that fails send all requests in time. Only those before it take in hosts. -/
theorem passes_of_broken {mark : Call → List (Dispatch σ) → Prop} {plan : List Call} {taken : Nat}
    {before : World σ} (timed : after.Timed)
    (smooth : ∀ call ∈ plan, ∀ segment, mark call segment →
      network.Smooth watched client.timeout taken segment)
    (given : ∀ call ∈ plan, call.watched = watched)
    (broken : (client.plane network).Broken network.timeline mark (client.Breaks network) plan before
      after failure) :
    ∃ dispatches done, network.Passes dispatches before after ∧
      (∀ dispatch ∈ dispatches, dispatch.InTime watched client.timeout) ∧ done < plan.length ∧
      (dispatches.map (Dispatch.exchange network)).countP Exchange.takesIn = done * taken ∧
      network.Ends watched dispatches after failure := by
  cases broken with
  | message planned made free untold =>
    -- The log would have taken the message, since the time can be counted.
    have told := World.note_of_timed free ((World.idle_note untold).timed timed)
    cases told.symm.trans untold
  | @call done rest call segment middle planned made told broke =>
    obtain ⟨dispatches, passed, smooth⟩ :=
      smooth_of_made (fun call inside => smooth call (by simp [planned, inside])) made
    have watching := given call (by simp [planned])
    refine ⟨dispatches ++ segment, done.length, passed.append told, fun dispatch inside => ?_,
      by simp [planned], ?_, ?_⟩
    · rcases List.mem_append.mp inside with inside | inside
      · exact smooth.punctual dispatch inside
      · exact watching ▸ broke.punctual dispatch inside
    · rw [List.map_append, List.countP_append, smooth.count, broke.none, Nat.add_zero]
    · exact (watching ▸ broke.ends).behind fun last isLast => (smooth.passable last isLast).2

end Client

namespace Join

variable {client : Client} {network : Network σ} {watched : Bool} {endpoints : List Text}
  {world after : World σ} {failure : Failure}

/-- No further request is needed: discovery settled on a membership, and as many hosts were taken in as there
are outsiders. -/
def Finished (client : Client) (network : Network σ) (endpoints : List Text) (watched : Bool)
    (world : World σ) (dispatches : List (Dispatch σ)) : Prop :=
  ∃ members settled,
    (Discovery.membership (client.plane network) (.texts endpoints) watched).outcome world =
      (.ok members, settled) ∧
    (dispatches.map (Dispatch.exchange network)).countP Exchange.takesIn = (outsiders members endpoints).length

/-- Questions for the status take in nobody, and the answers that discovery went by are no failures. -/
theorem smooth_of_probe {call : Call} {others : List Text} {segment : List (Dispatch σ)}
    (inside : call ∈ Discovery.probes watched others)
    (used : Discovery.Used (client.keeps network) (Client.brings network) call segment) :
    network.Smooth watched client.timeout 0 segment := by
  obtain ⟨endpoint, _, rfl⟩ := List.mem_map.mp inside
  exact Client.smooth_of_status used

/-- Each request for an outsider takes in one host. -/
theorem smooth_of_addition {call : Call} {members : List Text} {segment : List (Dispatch σ)}
    (inside : call ∈ additions members watched endpoints) (kept : client.keeps network call segment) :
    network.Smooth watched client.timeout 1 segment := by
  obtain ⟨host, _, rfl⟩ := List.mem_map.mp inside
  exact Client.smooth_of_add kept

/-- The dispatches of a joining that succeeds. No further request is needed then. -/
theorem join_passes_of_ok (several : 2 ≤ endpoints.length)
    (ran : (join (client.plane network) (.texts endpoints) watched).outcome world = (.ok (), after)) :
    ∃ dispatches taken, network.Passes dispatches world after ∧
      network.Smooth watched client.timeout taken dispatches ∧
      Finished client network endpoints watched world dispatches := by
  rw [join_of_length_ge several] at ran
  obtain ⟨members, settled, discovered, adding⟩ := Action.outcome_bind_eq_ok.mp ran
  obtain ⟨endpoint, rest, rfl⟩ := List.exists_cons_of_length_pos (by omega : 0 < endpoints.length)
  obtain ⟨_, _, segments, _, _, told, marked, _⟩ :=
    Discovery.membership_made (client.plane_accounts network).toMarks discovered
  obtain ⟨questions, asked, probing⟩ :=
    Client.smooth_of_made (fun _ inside _ used => smooth_of_probe inside used) ⟨segments, told, marked⟩
  obtain ⟨requests, added, taking⟩ :=
    Client.smooth_of_made (fun _ inside _ kept => smooth_of_addition inside kept)
      (addAll_made (client.plane_accounts network).toMarks adding)
  have smooth := probing.append taking
  refine ⟨questions ++ requests, _, asked.append added, smooth, members, settled, discovered, ?_⟩
  rw [smooth.count, additions, List.length_map, Nat.mul_zero, Nat.zero_add, Nat.mul_one]

/-- The dispatches of a discovery that fails. -/
theorem passes_of_fails (timed : after.Timed)
    (fails : Discovery.Fails (client.plane network) network.timeline (client.keeps network)
      (Client.brings network) (client.Breaks network) watched endpoints world after failure) :
    ∃ dispatches, network.Passes dispatches world after ∧
      (∀ dispatch ∈ dispatches, dispatch.InTime watched client.timeout) ∧
      network.Ends watched dispatches after failure := by
  cases fails with
  | broken found =>
    obtain ⟨dispatches, _, passed, punctual, _, _, ends⟩ :=
      Client.passes_of_broken timed (fun _ inside _ used => smooth_of_probe inside used)
        (fun call inside => by obtain ⟨_, _, rfl⟩ := List.mem_map.mp inside; rfl) found
    exact ⟨dispatches, passed, punctual, ends⟩
  | misnamed planned made told marked shown several unnamed =>
    obtain ⟨questions, asked, probing⟩ :=
      Client.smooth_of_made (fun _ inside _ used => smooth_of_probe inside used) made
    obtain ⟨failover, punctual⟩ := marked
    obtain ⟨last, isLast, question, response, answered, read⟩ := shown
    obtain ⟨_, other, fine⟩ := Failover.accepted failover isLast
    rw [answered] at other
    cases other
    -- The report that cannot be gone by is the last thing that was received.
    have ends : network.Ends watched _ after _ := fun _ _ =>
      .inl ⟨last, isLast, .misnamed question answered fine read several unnamed⟩
    exact ⟨questions ++ _, asked.append told, List.forall_mem_append.mpr ⟨probing.punctual, punctual⟩,
      ends.behind fun last isLast => (probing.passable last isLast).2⟩

/-- The dispatches of a joining that fails. A further request would have been needed. -/
theorem join_passes_of_error (several : 2 ≤ endpoints.length) (timed : after.Timed)
    (ran : (join (client.plane network) (.texts endpoints) watched).outcome world =
      (.error failure, after)) :
    ∃ dispatches, network.Passes dispatches world after ∧
      (∀ dispatch ∈ dispatches, dispatch.InTime watched client.timeout) ∧
      ¬ Finished client network endpoints watched world dispatches ∧
      network.Ends watched dispatches after failure := by
  rcases join_eq_error (client.plane_accounts network) several ran with ⟨failed, fails⟩ |
    ⟨members, settled, count, discovered, _, ⟨segments, told, marked⟩, broken⟩
  · -- A joining fails while it looks for members, or while hosts are taken in.
    obtain ⟨dispatches, passed, punctual, ends⟩ := passes_of_fails timed fails
    refine ⟨dispatches, passed, punctual, ?_, ends⟩
    rintro ⟨members, settled, discovered, _⟩
    cases failed.symm.trans discovered
  · obtain ⟨questions, asked, probing⟩ :=
      Client.smooth_of_made (fun _ inside _ used => smooth_of_probe inside used) ⟨segments, told, marked⟩
    obtain ⟨requests, done, added, punctual, few, taken, ends⟩ :=
      Client.passes_of_broken timed (fun _ inside _ kept => smooth_of_addition inside kept)
        (fun call inside => by obtain ⟨_, _, rfl⟩ := List.mem_map.mp inside; rfl) broken
    refine ⟨questions ++ requests, asked.append added,
      List.forall_mem_append.mpr ⟨probing.punctual, punctual⟩, ?_,
      ends.behind fun last isLast => (probing.passable last isLast).2⟩
    rintro ⟨others, _, settledOn, all⟩
    cases discovered.symm.trans settledOn
    -- The outsider whose request fails is not taken in.
    rw [List.map_append, List.countP_append, probing.count, taken] at all
    rw [additions, List.length_map] at few
    omega

/--
What becomes of a joining whose operation may be cancelled or run out of time, at whatever request.

Each request is sent in time, and none is sent once the operation has to stop. If it has to stop after a
request, that is the last one, and one of three things happens. The joining fails with what came of the
request, if that is a failure by itself. It succeeds, if the request was accepted and no further one is
needed. In every other case it fails because the operation has to stop.
-/
theorem join_lapses (client : Client) (network : Network σ) (endpoints : List Text) (watched : Bool)
    {result : Except Failure Unit} (timed : after.Timed)
    (ran : (join (client.plane network) (.texts endpoints) watched).outcome world = (result, after)) :
    ∃ dispatches, network.Passes dispatches world after ∧
      after.sent = world.sent ++ dispatches.map Dispatch.request ∧
      (∀ dispatch ∈ dispatches, dispatch.InTime watched client.timeout) ∧
      (∀ lapse, world.lapse? watched = some lapse → dispatches = []) ∧
      ∀ front dispatch rest lapse, dispatches = front ++ dispatch :: rest →
        (dispatch.after network).lapse? watched = some lapse →
        rest = [] ∧
          ((∃ failure, (dispatch.exchange network).Refuses failure ∧ result = .error failure) ∨
            (¬ (dispatch.exchange network).IsRefusal ∧ (dispatch.exchange network).Accepted ∧
              Finished client network endpoints watched world dispatches ∧ result = .ok ()) ∨
            (¬ (dispatch.exchange network).IsRefusal ∧
              ¬ Finished client network endpoints watched world dispatches ∧
              result = .error lapse.failure)) := by
  -- With several endpoints there are requests. The two ways to end are accounted for apart.
  by_cases several : 2 ≤ endpoints.length
  · cases result with
    | ok =>
      obtain ⟨dispatches, _, passed, smooth, finished⟩ := join_passes_of_ok several ran
      refine ⟨dispatches, passed, passed.sent, smooth.punctual,
        fun _ => passed.eq_nil_of_lapse smooth.punctual, ?_⟩
      rintro front dispatch rest lapse rfl lapsed
      obtain ⟨rfl, _⟩ := passed.last_of_lapse smooth.punctual lapsed
      obtain ⟨accepted, passable⟩ := smooth.passable dispatch List.getLast?_concat
      exact ⟨rfl, .inr (.inl ⟨passable, accepted, finished, rfl⟩)⟩
    | error failure =>
      obtain ⟨dispatches, passed, punctual, unfinished, ends⟩ := join_passes_of_error several timed ran
      refine ⟨dispatches, passed, passed.sent, punctual, fun _ => passed.eq_nil_of_lapse punctual, ?_⟩
      rintro front dispatch rest lapse rfl lapsed
      obtain ⟨rfl, still⟩ := passed.last_of_lapse punctual lapsed
      refine ⟨rfl, ?_⟩
      rcases ends lapse still with ⟨last, isLast, refuses⟩ | ⟨passable, same⟩
      · cases isLast.symm.trans List.getLast?_concat
        exact .inl ⟨failure, refuses, rfl⟩
      · exact .inr (.inr ⟨passable dispatch List.getLast?_concat, unfinished, congrArg _ same⟩)
  · rw [join_of_length_lt (by omega)] at ran
    cases ran
    exact ⟨[], .idle (.refl world), by simp, by simp, by simp, by simp⟩

/-- Two servers of one cluster, both of which answer just when the operation is cancelled. -/
def cancelling : Network Unit where
  answer _ _ :=
    ({ advance := 0, cancels := true, outcome := .ok { status := 200, body := Network.pairBody } }, ())

/-- A world with an operation that may last for four seconds. -/
def begun : World Unit where
  clock := { start := 5, epoch := 5 }
  servers := ()
  context := some { deadline := some 9 }

/-- The same world after the first message about joining. -/
def begunTold : World Unit :=
  begun.record (.logged begun.timeOfDay (Journal.querying "a"))

/-- What comes of the question to the first server. -/
def begunAsked : Except Failure Response × World Unit :=
  (Client.bare.ask cancelling "GET" Client.statusPath none (.texts ["a"]) true).outcome begunTold

set_option maxRecDepth 10000 in
/-- The operation is cancelled while the first server reports the cluster, so nobody is asked to take in the
third one. -/
theorem outcome_cancelling : ∃ after,
    (join (Client.bare.plane cancelling) (.texts ["https://a/", "c"]) true).outcome begun =
      (.error .cancelled, after) ∧
      after.Timed ∧ after.sent.map Request.url = (["https://a/v1/cluster/status"] : List Text) := by
  have noted : ((Client.bare.plane cancelling).note (Journal.querying "a")).outcome begun =
      (.ok (), begunTold) := rfl
  have answered : begunAsked.1 = .ok { status := 200, body := Network.pairBody } := rfl
  -- The body of the answer is read apart from the rest, which is only computed.
  have reported : ((Client.bare.plane cancelling).status ["a"] true).outcome begunTold =
      (.ok { up := [], down := [.text "b", .text "a"] }, begunAsked.2) := by
    change (Client.status _ _ _ _).outcome _ = _
    rw [Client.status, Action.outcome_bind_of_ok (Prod.ext answered rfl)]
    simp only [Network.report_pairBody]
    rfl
  rw [join_of_length_ge (by decide), Discovery.membership_texts, Discovery.probe_cons]
  simp only [bind_assoc, show Endpoint.host "https://a/" = "a" by decide]
  rw [Action.outcome_bind_of_ok noted, Action.outcome_bind_of_ok reported]
  exact ⟨_, Prod.ext rfl rfl, fun _ _ _ => ⟨_, rfl⟩, rfl⟩

/-- The only request is the question during which the operation is cancelled, and it is sent in time. -/
theorem join_lapses_cancelled : ∃ after dispatches,
    (join (Client.bare.plane cancelling) (.texts ["https://a/", "c"]) true).outcome begun =
      (.error .cancelled, after) ∧
      cancelling.Passes dispatches begun after ∧
      (∀ dispatch ∈ dispatches, dispatch.InTime true Client.bare.timeout) ∧
      (dispatches.map Dispatch.request).map Request.url =
        (["https://a/v1/cluster/status"] : List Text) := by
  obtain ⟨after, ran, timed, sent⟩ := outcome_cancelling
  obtain ⟨dispatches, passed, requests, punctual, _⟩ :=
    join_lapses Client.bare cancelling ["https://a/", "c"] true timed ran
  refine ⟨after, dispatches, ran, passed, punctual, ?_⟩
  -- Nothing was sent before.
  rw [← sent, requests]
  rfl

end Join

end KeyCluster

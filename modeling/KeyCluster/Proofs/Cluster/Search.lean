import KeyCluster.Proofs.Cluster.FailStop

/-! The search for a cluster ends at the first server that is not alone in its own, and always settles on
somebody to turn to. -/

namespace KeyCluster

/-- The hosts that a call may be sent to. -/
def Call.hosts : Call → List Text
  | .status hosts _ => hosts
  | .add _ hosts _ => hosts

/-- A report that spells all hosts of a cluster as texts names the hosts of these. -/
theorem Report.hosts_of_spelled {report : Report} {spelled : List Text}
    (same : report.up.map Node.host ++ report.down = spelled.map .text) :
    report.hosts = .ok (spelled.map Endpoint.host) := by
  -- Whether a host is up or down does not matter, so all of them may as well be down.
  rw [hosts, same]
  exact hosts_of_texts spelled

/-- A report has as many members as it spells hosts. -/
theorem Report.size_of_spelled {report : Report} {spelled : List Text}
    (same : report.up.map Node.host ++ report.down = spelled.map .text) :
    report.size = spelled.length := by
  have lengths := congrArg List.length same
  simpa [size] using lengths

namespace Discovery

/-- Servers report on endpoints that are asked one after another, behind some calls. All hosts in the reports
are spelled as texts. Nothing is known of a server behind one that is not alone, for it is never asked. -/
structure Reported (behaviour : Behaviour) (watched : Bool) (before : List Call) (endpoints : List Text)
    (reports : Nat → Report) (spelled : Nat → List Text) : Prop where
  /-- Each endpoint is asked by itself, once those in front of it were. -/
  answered : ∀ i (inside : i < endpoints.length), (∀ j < i, (reports j).size = 1) →
    behaviour (before ++ probes watched (endpoints.take i)) (.status [Endpoint.host endpoints[i]] watched) =
      .ok (reports i)
  /-- Hosts of members are texts, be they up or down. -/
  texts : ∀ i < endpoints.length, (∀ j < i, (reports j).size = 1) →
    (reports i).up.map Node.host ++ (reports i).down = (spelled i).map .text

/-- The search ends at a place: all servers in front are alone, and the one there is not, or it is the last. -/
structure StopsAt (endpoints : List Text) (reports : Nat → Report) (stop : Nat) : Prop where
  inside : stop < endpoints.length
  /-- The servers in front of it are alone. -/
  alone : ∀ i < stop, (reports i).size = 1
  /-- Its own is not, or there is nobody else to ask. -/
  ends : (reports stop).size ≠ 1 ∨ stop + 1 = endpoints.length

variable {behaviour : Behaviour} {watched : Bool} {before : List Call} {endpoints : List Text}
  {reports others : Nat → Report} {spelled : Nat → List Text} {stop place : Nat}

/-- There is only one place at which the search ends. Reports from behind it do not matter, and those in front
are only known to be of servers that are alone. -/
theorem StopsAt.unique (stops : StopsAt endpoints reports stop) (also : StopsAt endpoints others place)
    (alone : ∀ i < stop, (others i).size = 1) (same : others stop = reports stop) : place = stop := by
  -- The two places can only differ if one of them is passed over in the other run.
  have ends := stops.ends
  have otherEnds := also.ends
  rcases Nat.lt_trichotomy place stop with earlier | equal | later
  · -- Whoever is in front of the stop is alone, and not the last one either.
    have one := alone place earlier
    have inside := stops.inside
    omega
  · exact equal
  · -- Whoever ends the search cannot be passed over.
    have one := also.alone stop later
    rw [same] at one
    have inside := also.inside
    omega

/-- What is left to ask behind the first endpoint, if its server is alone. -/
theorem Reported.tail {endpoint : Text} {rest : List Text}
    (reported : Reported behaviour watched before (endpoint :: rest) reports spelled)
    (alone : (reports 0).size = 1) :
    Reported behaviour watched (before ++ probes watched [endpoint]) rest (fun i => reports (i + 1))
      (fun i => spelled (i + 1)) := by
  -- The first server is one more that has to be alone.
  have front {i : Nat} (quiet : ∀ j < i, (reports (j + 1)).size = 1) :
      ∀ j < i + 1, (reports j).size = 1 := by
    intro j inside
    cases j with
    | zero => exact alone
    | succ j => exact quiet j (by omega)
  refine ⟨fun i inside quiet => ?_, fun i inside quiet => ?_⟩
  · -- The question to the first endpoint is one of those before.
    have later := reported.answered (i + 1) (by simpa using inside) (front quiet)
    simpa [probes, List.append_assoc] using later
  · exact reported.texts (i + 1) (by simpa using inside) (front quiet)

/-- What is found in a report of a server that is not alone, if there is anything in it. -/
theorem membersOf_reported {report : Report} {texts : List Text} (host : Text)
    (same : report.up.map Node.host ++ report.down = texts.map .text) (several : report.size ≠ 1)
    (before : List Call) :
    (membersOf behaviour.plane host report).outcome before =
      (.ok (if 1 < report.size then some (Members.ofList (texts.map Endpoint.host)) else none), before) := by
  -- The spelled hosts tell both which hosts there are and how many.
  have named := Report.hosts_of_spelled same
  have size := Report.size_of_spelled same
  by_cases empty : texts = []
  · -- An empty report is told to the log, and nothing is found in it.
    subst empty
    rw [if_neg (by simp [size]), membersOf, named]
    rfl
  · -- Of the hosts that are spelled at least one is a member.
    have some : Members.ofList (texts.map Endpoint.host) ≠ [] := by
      obtain ⟨text, rest, rfl⟩ := List.exists_cons_of_ne_nil empty
      exact List.ne_nil_of_mem (Members.mem_ofList.mpr (by simp : Endpoint.host text ∈ _))
    have positive := List.length_pos_iff.mpr empty
    rw [if_pos (by omega), membersOf_of_hosts named some]
    rfl

/-- Endpoints are asked up to the place at which the search ends. -/
theorem probe_reported (some : endpoints ≠ [])
    (reported : Reported behaviour watched before endpoints reports spelled) :
    ∃ stop, StopsAt endpoints reports stop ∧
      (probe behaviour.plane watched (endpoints.map .text)).outcome before =
        (.ok (if 1 < (reports stop).size then
            Option.some (Members.ofList ((spelled stop).map Endpoint.host)) else none),
          before ++ probes watched (endpoints.take (stop + 1))) := by
  -- The search ends with the first endpoint, or it goes on with one question more behind it.
  induction endpoints generalizing before reports spelled with
  | nil => exact absurd rfl some
  | cons endpoint rest ih =>
    -- What is asked first is answered first, by assumption.
    have asked : (behaviour.plane.status [Endpoint.host endpoint] watched).outcome before =
        (.ok (reports 0), before ++ probes watched [endpoint]) := by
      have first := reported.answered 0 (by simp) (by simp)
      rw [List.take_zero, probes, List.map_nil, List.append_nil] at first
      exact Prod.ext first rfl
    rw [probe_cons, Action.outcome_bind_of_ok (by rfl), Action.outcome_bind_of_ok asked]
    by_cases alone : (reports 0).size = 1
    · rw [if_pos (by simpa [Report.isStandalone] using alone)]
      by_cases last : rest = []
      · -- Nobody is left to ask, and the last server is alone as well.
        subst last
        refine ⟨0, ⟨by simp, by simp, Or.inr rfl⟩, ?_⟩
        rw [if_neg (by omega)]
        rfl
      · obtain ⟨stop, ⟨within, quiet, ends⟩, ran⟩ := ih last (reported.tail alone)
        refine ⟨stop + 1, ⟨by simpa using within, fun i inside => ?_, ?_⟩, ?_⟩
        · -- The first server is alone, and so are those behind it up to the stop.
          cases i with
          | zero => exact alone
          | succ i => exact quiet i (by omega)
        · simpa using ends
        · rw [ran, List.append_assoc]
          rfl
    · -- The first server is not alone, and its report decides.
      rw [if_neg (by simpa [Report.isStandalone] using alone)]
      refine ⟨0, ⟨by simp, by simp, .inl alone⟩, ?_⟩
      rw [membersOf_reported _ (reported.texts 0 (by simp) (by simp)) alone]
      rfl

end Discovery

namespace ControlPlane

variable {σ : Type} {plane : ControlPlane σ}

/-- The chronicle of the calls that are recorded. -/
def callBook (σ : Type) : Chronicle (σ × List Event) Call :=
  .ofLog fun state => Event.calls state.2

/-- A recorded call is its own mark, whether it fails or not. -/
theorem recorded_accounts (plane : ControlPlane σ) :
    plane.recorded.Accounts (callBook σ) (fun call segment => segment = [call]) (fun _ _ => True)
      fun call segment _ _ => segment = [call] where
  toMarks := plane.recorded_marks
  statusBreaks broke := ⟨_, by simp [callBook, Chronicle.ofLog, events_of_recorded broke, Event.calls], rfl⟩
  addBreaks _ broke := ⟨_, by simp [callBook, Chronicle.ofLog, events_of_recorded broke, Event.calls], rfl⟩

/-- The calls between two states of a record are those by which the later one is longer. -/
theorem tells_callBook {calls : List Call} {before after : σ × List Event} :
    (callBook σ).Tells calls before after ↔ Event.calls after.2 = Event.calls before.2 ++ calls :=
  Iff.rfl

/-- The calls that were made between two states of a record. -/
theorem calls_of_made {mark : Call → List Call → Prop} {calls : List Call} {before after : σ × List Event}
    (alone : ∀ call segment, mark call segment → segment = [call])
    (made : (callBook σ).Made mark calls before after) :
    Event.calls after.2 = Event.calls before.2 ++ calls :=
  Chronicle.calls_of_made alone made

/-- Calls that are broken off are those at the beginning of the plan. -/
theorem calls_of_broken {mark : Call → List Call → Prop} {plan : List Call} {before after : σ × List Event}
    {failure : Failure} (alone : ∀ call segment, mark call segment → segment = [call])
    (broken : plane.recorded.Broken (callBook σ) mark (fun call segment _ _ => segment = [call]) plan
      before after failure) :
    ∃ calls, calls <+: plan ∧ Event.calls after.2 = Event.calls before.2 ++ calls := by
  cases broken with
  | @call done rest call segment middle planned made told broke =>
    -- The call that fails was made as well.
    obtain rfl := broke
    refine ⟨done ++ [call], ⟨rest, by rw [planned, List.append_assoc, List.singleton_append]⟩, ?_⟩
    rw [tells_callBook.mp told, calls_of_made alone made, List.append_assoc]
  | @message done rest entry middle planned made free untold =>
    -- A message is recorded, too, but it is no call.
    refine ⟨done, ⟨rest, planned.symm⟩, ?_⟩
    have told : Event.calls after.2 = Event.calls middle.2 := by
      rw [events_of_recorded untold]
      simp [Event.calls]
    rw [told, calls_of_made alone made]

end ControlPlane

/-- A question to an endpoint is put to somebody. -/
theorem Discovery.hosts_of_probes {watched : Bool} {endpoints : List Text} {call : Call}
    (inside : call ∈ probes watched endpoints) : call.hosts ≠ [] := by
  obtain ⟨endpoint, _, rfl⟩ := List.mem_map.mp inside
  simp [Call.hosts]

namespace Join

variable {σ : Type} {plane : ControlPlane σ} {watched : Bool} {endpoints members : List Text}

/-- A request to take in an outsider is put to the members. -/
theorem hosts_of_additions {call : Call} (inside : call ∈ additions members watched endpoints) :
    call.hosts = members := by
  obtain ⟨host, _, rfl⟩ := List.mem_map.mp inside
  rfl

/-- Whatever a discovery that fails has asked, it has asked somebody. -/
theorem hosts_of_fails {before after : σ × List Event} {failure : Failure}
    (fails : Discovery.Fails plane.recorded (ControlPlane.callBook σ) (fun call segment => segment = [call])
      (fun _ _ => True) (fun call segment _ _ => segment = [call]) watched endpoints before after failure)
    (fresh : ∀ call ∈ Event.calls before.2, call.hosts ≠ []) :
    ∀ call ∈ Event.calls after.2, call.hosts ≠ [] := by
  intro call inside
  -- Calls are those from before, questions of the search, and perhaps the one that failed.
  cases fails with
  | broken found =>
    obtain ⟨calls, front, told⟩ := ControlPlane.calls_of_broken (fun _ _ => And.left) found
    rcases List.mem_append.mp (told ▸ inside) with inside | inside
    · exact fresh call inside
    · exact Discovery.hosts_of_probes (front.subset inside)
  | misnamed planned made told marked shown several unnamed =>
    -- The report was the answer to the last call.
    obtain rfl := marked
    rw [ControlPlane.tells_callBook.mp told,
      ControlPlane.calls_of_made (fun _ _ => And.left) made] at inside
    rcases List.mem_append.mp inside with inside | inside
    · rcases List.mem_append.mp inside with inside | inside
      · exact fresh call inside
      · exact Discovery.hosts_of_probes inside
    · obtain rfl := List.mem_singleton.mp inside
      simp [Call.hosts]

/-- Whatever a joining has asked, it has asked somebody, however it ends. -/
theorem hosts_of_join {state : σ} {result : Except Failure Unit} {after : σ × List Event}
    (ran : (join plane.recorded (.texts endpoints) watched).outcome (state, []) = (result, after)) :
    ∀ call ∈ Event.calls after.2, call.hosts ≠ [] := by
  intro call inside
  by_cases several : 2 ≤ endpoints.length
  · -- Whether the joining ends or fails, its calls come from the search or from the adding.
    cases result with
    | ok =>
      obtain ⟨members, settled, count, segments, _, fit, _, _, asked, marked, _, added⟩ :=
        join_made plane.recorded_marks several ran
      -- The calls are the questions of discovery, and then the requests to the members.
      have asked := ControlPlane.calls_of_made (fun _ _ same => same) ⟨segments, asked, marked⟩
      have added := ControlPlane.calls_of_made (fun _ _ same => same) added
      rw [added, asked] at inside
      rcases List.mem_append.mp inside with inside | inside
      · exact Discovery.hosts_of_probes inside
      · exact hosts_of_additions inside ▸ fit.nonempty
    | error failure =>
      rcases join_eq_error plane.recorded_accounts several ran with ⟨_, fails⟩ |
        ⟨members, settled, count, discovered, _, probed, broken⟩
      · exact hosts_of_fails fails (by simp [Event.calls]) call inside
      · obtain ⟨endpoint, rest, rfl⟩ := List.exists_cons_of_length_pos (by omega : 0 < endpoints.length)
        have fit := (Discovery.membership_made plane.recorded_marks discovered).1
        have asked := ControlPlane.calls_of_made (fun _ _ => And.left) probed
        obtain ⟨calls, front, told⟩ := ControlPlane.calls_of_broken (fun _ _ same => same) broken
        rw [told, asked] at inside
        rcases List.mem_append.mp inside with inside | inside
        · exact Discovery.hosts_of_probes inside
        · exact hosts_of_additions (front.subset inside) ▸ fit.nonempty
  · -- Fewer than two endpoints are joined without a call.
    rw [join_of_length_lt (by omega)] at ran
    cases ran
    cases inside

end Join

namespace Discovery

/-- Discovery asks endpoints up to the place at which the search ends, and settles on what is found there, or
else on the first endpoint. -/
theorem membership_reported (some : endpoints ≠ [])
    (reported : Reported behaviour watched [] endpoints reports spelled) :
    ∃ stop members, StopsAt endpoints reports stop ∧
      (membership behaviour.plane (.texts endpoints) watched).outcome [] =
        (.ok members, probes watched (endpoints.take (stop + 1))) ∧
      (1 < (reports stop).size → members = Members.ofList ((spelled stop).map Endpoint.host)) ∧
      ((reports stop).size ≤ 1 → members = [Endpoint.host (endpoints.head some)]) := by
  obtain ⟨stop, stops, searched⟩ := probe_reported some reported
  obtain ⟨endpoint, rest, rfl⟩ := List.exists_cons_of_ne_nil some
  rw [membership_texts, Action.outcome_bind_of_ok searched]
  -- Only a report of several members is a find.
  by_cases several : 1 < (reports stop).size
  · rw [if_pos several]
    exact ⟨stop, _, stops, rfl, fun _ => rfl, fun few => by omega⟩
  · rw [if_neg several]
    exact ⟨stop, _, stops, rfl, fun many => by omega, fun _ => rfl⟩

/--
Discovery among servers of which each that is asked reports, with all hosts spelled as texts.

Endpoints are asked one at a time and in order, each by itself, up to the first one that is not alone in its
cluster, or to the last. The membership are the hosts in the report of the one at which the search stops, if
that is not alone and its cluster not empty, and else the first endpoint. Reports from before the stop do not
count: as long as those servers are alone, other reports of theirs lead to the same questions and membership.

There is always a member. So whoever is asked to join endpoints, and however that ends, every call is sent to
some host.
-/
theorem membership_stops (behaviour : Behaviour) (watched : Bool) {endpoints : List Text}
    (some : endpoints ≠ []) {reports : Nat → Report} {spelled : Nat → List Text}
    (reported : Reported behaviour watched [] endpoints reports spelled) :
    ∃ stop members, StopsAt endpoints reports stop ∧
      (membership behaviour.plane (.texts endpoints) watched).outcome [] =
        (.ok members, probes watched (endpoints.take (stop + 1))) ∧
      (1 < (reports stop).size → members = Members.ofList ((spelled stop).map Endpoint.host)) ∧
      ((reports stop).size ≤ 1 → members = [Endpoint.host (endpoints.head some)]) ∧
      members ≠ [] ∧
      (∀ (other : Behaviour) others spellings, Reported other watched [] endpoints others spellings →
        (∀ i < stop, (others i).size = 1) → others stop = reports stop →
        (membership other.plane (.texts endpoints) watched).outcome [] =
          (.ok members, probes watched (endpoints.take (stop + 1)))) ∧
      ∀ {σ : Type} (plane : ControlPlane σ) state result after events,
        (Join.join plane.recorded (.texts endpoints) watched).outcome (state, []) =
          (result, after, events) →
        ∀ call ∈ Event.calls events, call.hosts ≠ [] := by
  obtain ⟨stop, members, stops, ran, found, elected⟩ := membership_reported some reported
  refine ⟨stop, members, stops, ran, found, elected, ?_, ?_, ?_⟩
  · -- Members that are found are never an empty list.
    obtain ⟨endpoint, rest, rfl⟩ := List.exists_cons_of_ne_nil some
    exact (membership_made behaviour.plane_accounts.toMarks ran).1.nonempty
  · -- Other reports from before the stop let the search end at the same place.
    intro other others spellings also alone same
    obtain ⟨place, names, there, ranThere, foundThere, electedThere⟩ := membership_reported some also
    obtain rfl := stops.unique there alone same
    rw [ranThere]
    rw [same] at foundThere electedThere
    by_cases several : 1 < (reports place).size
    · -- One report spells its hosts in one way.
      have texts := also.texts place stops.inside alone
      rw [same, reported.texts place stops.inside stops.alone] at texts
      have spelled := List.map_injective_iff.mpr (fun _ _ => Value.text.inj) texts
      rw [foundThere several, found several, spelled]
    · rw [electedThere (by omega), elected (by omega)]
  · -- The last part is about any control plane, so it does not depend on the reports.
    intro σ plane state result after events joined
    exact Join.hosts_of_join joined

/-- The first server is alone, though under another name. The second one knows of a node that is down, and
the third one does not answer. -/
def unequal : Behaviour
  | _, .status hosts _ =>
    if hosts = ["a"] then .ok { up := [{ id := 0, host := .text "x" }], down := [] }
    else if hosts = ["b"] then
      .ok { up := [{ id := 1, host := .text "b" }], down := [.text "https://d/"] }
    else .error .cancelled
  | _, .add _ _ _ => .ok ()

/-- The reports of these servers. -/
def unequalReports : Nat → Report
  | 0 => { up := [{ id := 0, host := .text "x" }], down := [] }
  | _ => { up := [{ id := 1, host := .text "b" }], down := [.text "https://d/"] }

/-- How the reports spell hosts. -/
def unequalSpelled : Nat → List Text
  | 0 => ["x"]
  | _ => ["b", "https://d/"]

/-- The first two of these servers report, and the third one is never asked. -/
theorem unequal_reported :
    Reported unequal true [] ["https://a", "b/", "c"] unequalReports unequalSpelled := by
  -- With the endpoints in order there are three cases, and the third endpoint is not asked.
  refine ⟨fun i inside alone => ?_, fun i _ _ => ?_⟩
  · match i, inside with
    | 0, _ => rfl
    | 1, _ => rfl
    | 2, _ => exact absurd (alone 1 (by omega)) (by decide)
  · match i with
    | 0 => rfl
    | _ + 1 => rfl

/-- The search stops at the second server, whose cluster becomes the membership. -/
theorem membership_stops_unequal :
    Reported unequal true [] ["https://a", "b/", "c"] unequalReports unequalSpelled ∧
    (membership unequal.plane (.texts ["https://a", "b/", "c"]) true).outcome [] =
      (.ok ["b", "d"], [.status ["a"] true, .status ["b"] true]) := by
  obtain ⟨stop, members, stops, ran, found, _⟩ :=
    membership_stops unequal true (by decide) unequal_reported
  refine ⟨unequal_reported, ?_⟩
  -- The only server that is not alone and is asked is the second one.
  have second : stop = 1 := by
    have inside := stops.inside
    match stop, inside with
    | 0, _ => exact absurd stops.ends (by decide)
    | 1, _ => rfl
    | 2, _ => exact absurd (stops.alone 1 (by omega)) (by decide)
  subst second
  rw [ran, found (by decide)]
  rfl

end Discovery

end KeyCluster

import KeyCluster.Proofs.Cluster.Recording
import KeyCluster.Proofs.Cluster.Trace

/-! A joining that succeeds probes for a cluster, and then adds every endpoint outside it once for each time
it occurs. -/

namespace KeyCluster

variable {σ : Type}

/-- The calls among some events, in order. -/
def Event.calls (events : List Event) : List Call :=
  events.filterMap fun
    | .call made => some made
    | .entry _ => none

namespace ControlPlane

/-- A recorded action leaves its event behind the ones before, whether it succeeds or fails. -/
theorem events_of_recorded {α : Type} {event : Event} {action : Action σ α}
    {before after : σ × List Event} {result : Except Failure α}
    (ran : (record event >>= fun _ => beside action).outcome before = (result, after)) :
    after.2 = before.2 ++ [event] :=
  -- The event is noted first, and the action leaves the list alone.
  congrArg (fun outcome => outcome.2.2) ran.symm

/-- Every call of a recorded control plane is its own mark among the calls that were made. -/
theorem recorded_marks (plane : ControlPlane σ) :
    plane.recorded.Marks (.ofLog fun state => Event.calls state.2)
      (fun call segment => segment = [call]) fun _ _ => True where
  status answered := ⟨_, by simp [Chronicle.ofLog, events_of_recorded answered, Event.calls], rfl, trivial⟩
  add accepted := ⟨_, by simp [Chronicle.ofLog, events_of_recorded accepted, Event.calls], rfl⟩
  note noted := by simp [Chronicle.ofLog, events_of_recorded noted, Event.calls]

end ControlPlane

/-- Segments of one call each are the calls, once they are put behind one another. -/
theorem Call.flatten_eq {calls : List Call} {segments : List (List Call)}
    (marked : List.Forall₂ (fun call segment => segment = [call]) calls segments) :
    segments.flatten = calls := by
  -- Each call stands alone in its segment.
  induction marked with
  | nil => rfl
  | cons same _ ih => rw [same, List.flatten_cons, ih, List.singleton_append]

/-- Where every call stands for itself in a log, the log grows by the calls that are made. -/
theorem Chronicle.calls_of_made {log : σ → List Call} {mark : Call → List Call → Prop}
    {calls : List Call} {before after : σ} (alone : ∀ call segment, mark call segment → segment = [call])
    (made : (Chronicle.ofLog log).Made mark calls before after) : log after = log before ++ calls := by
  obtain ⟨segments, told, marked⟩ := made
  rw [← Call.flatten_eq (marked.imp alone)]
  exact told

/-- Probing adds nothing. -/
theorem Discovery.add_not_mem_probes {watched asked : Bool} {endpoints hosts : List Text} {host : Text} :
    .add host hosts asked ∉ probes watched endpoints := by
  simp [probes]

namespace Join

/-- Adding probes nothing. -/
theorem status_not_mem_additions {watched asked : Bool} {members endpoints hosts : List Text} :
    .status hosts asked ∉ additions members watched endpoints := by
  simp [additions]

/-- An endpoint is asked to be taken in when it is no member, and with all members to turn to. -/
theorem mem_additions {members endpoints hosts : List Text} {host : Text} {watched asked : Bool} :
    .add host hosts asked ∈ additions members watched endpoints ↔
      host ∈ outsiders members endpoints ∧ hosts = members ∧ asked = watched := by
  -- All requests share the members and the flag, so they differ in the host alone.
  simp only [additions, List.mem_map, Call.add.injEq]
  constructor
  · rintro ⟨_, inside, rfl, rfl, rfl⟩
    exact ⟨inside, rfl, rfl⟩
  · rintro ⟨inside, rfl, rfl⟩
    exact ⟨host, inside, rfl, rfl, rfl⟩

/--
Fewer than two endpoints are joined without any call.

A joining of more that succeeds makes the calls of discovery, which probe some endpoints in front. Then it
asks, once for each time that an endpoint outside the membership occurs, for that endpoint to be taken in,
and turns to all members for it. No other call is made, whatever the answers were.
-/
theorem join_calls (plane : ControlPlane σ) (endpoints : List Text) (watched : Bool) (state : σ) :
    (endpoints.length < 2 →
      (join plane.recorded (.texts endpoints) watched).outcome (state, []) = (.ok (), state, [])) ∧
    ∀ after, 2 ≤ endpoints.length →
      (join plane (.texts endpoints) watched).outcome state = (.ok (), after) →
      ∃ events members settled probed count,
        (join plane.recorded (.texts endpoints) watched).outcome (state, []) =
          (.ok (), after, events) ∧
        (Discovery.membership plane.recorded (.texts endpoints) watched).outcome (state, []) =
          (.ok members, settled, probed) ∧
        IsMembership members ∧ 0 < count ∧ count ≤ endpoints.length ∧
        Event.calls probed = Discovery.probes watched (endpoints.take count) ∧
        Event.calls events = Event.calls probed ++ additions members watched endpoints ∧
        (∀ endpoint ∈ endpoints, Endpoint.host endpoint ∈ members ∨
          .add (Endpoint.host endpoint) members watched ∈ Event.calls events) ∧
        (∀ host hosts asked, .add host hosts asked ∈ Event.calls events →
          host ∉ members ∧ hosts = members ∧ asked = watched) ∧
        (Event.calls events).Pairwise fun earlier later =>
          ∀ host hosts asked, earlier = .add host hosts asked →
            ∀ others told, later ≠ .status others told := by
  refine ⟨fun few => by rw [join_of_length_lt few]; rfl, fun after several plain => ?_⟩
  -- The recorded run ends like the plain one, so what is known of its calls holds for both.
  obtain ⟨events, ran⟩ := observes_join plane watched (.texts endpoints) state []
  rw [plain, List.nil_append] at ran
  obtain ⟨members, ⟨settled, probed⟩, count, segments, discovered, fit, positive, within, asked, marked,
    _, further, added, markedFurther⟩ := join_made plane.recorded_marks several ran
  rw [Call.flatten_eq marked] at asked
  rw [Call.flatten_eq markedFurther] at added
  -- Nothing was listed before, so the first of the calls are the probes.
  have probes : Event.calls probed = Discovery.probes watched (endpoints.take count) := asked
  have added : Event.calls events = Event.calls probed ++ additions members watched endpoints := added
  refine ⟨events, members, settled, probed, count, ran, discovered, fit, positive, within, probes,
    added, fun endpoint inside => ?_, fun host hosts asked inside => ?_, ?_⟩
  · -- What is no member is an outsider, and each outsider is asked for.
    by_cases member : Endpoint.host endpoint ∈ members
    · exact .inl member
    · rw [added]
      exact .inr (List.mem_append_right _
        (mem_additions.mpr ⟨mem_outsiders.mpr ⟨⟨endpoint, inside, rfl⟩, member⟩, rfl, rfl⟩))
  · -- A request to take in a host is none of the probes.
    rw [added, List.mem_append] at inside
    rcases inside with inside | inside
    · rw [probes] at inside
      exact absurd inside Discovery.add_not_mem_probes
    · obtain ⟨outside, same, told⟩ := mem_additions.mp inside
      exact ⟨(mem_outsiders.mp outside).2, same, told⟩
  · -- An add in front is none of the probes, and what stands behind it is no probe.
    rw [added, probes]
    refine List.pairwise_append.mpr ⟨?_, ?_, ?_⟩
    · refine List.pairwise_of_forall_mem_list fun earlier inside _ _ => ?_
      rintro host hosts asked rfl
      exact absurd inside Discovery.add_not_mem_probes
    · refine List.pairwise_of_forall_mem_list fun _ _ later inside => ?_
      rintro _ _ _ _ others told rfl
      exact absurd inside status_not_mem_additions
    · intro earlier inside _ _
      rintro host hosts asked rfl
      exact absurd inside Discovery.add_not_mem_probes

/-- A control plane over servers that are alone each, and take in every host. -/
def lonePlane : ControlPlane Unit where
  status hosts _ := return { up := hosts.map fun host => { id := 0, host := .text host }, down := [] }
  add _ _ _ := return ()
  note _ := return ()

/-- The first of several endpoints is elected in any spelling, and another one is added twice. -/
theorem join_calls_duplicates :
    2 ≤ (["https://a", "b", "a/", "https://b/"] : List Text).length ∧
    (join lonePlane (.texts ["https://a", "b", "a/", "https://b/"]) true).outcome () = (.ok (), ()) ∧
    ∃ events, (join lonePlane.recorded (.texts ["https://a", "b", "a/", "https://b/"]) true).outcome
        ((), []) = (.ok (), (), events) ∧
      Event.calls events = [.status ["a"] true, .status ["b"] true, .status ["a"] true,
        .status ["b"] true, .add "b" ["a"] true, .add "b" ["a"] true] := by
  -- The run is computed, and its events are those that the theorem speaks of.
  refine ⟨by decide, rfl, ?_⟩
  obtain ⟨events, _, _, _, _, ran, _⟩ :=
    (join_calls lonePlane ["https://a", "b", "a/", "https://b/"] true ()).2 () (by decide) rfl
  refine ⟨events, ran, ?_⟩
  cases ran
  rfl

end Join

end KeyCluster

import KeyCluster.Proofs.Cluster.Answers
import KeyCluster.Proofs.Cluster.Fleet
import KeyCluster.Proofs.Cluster.Trace

/-! A joining that succeeds leaves all its endpoints in one cluster, whatever others merge meanwhile. -/

namespace KeyCluster

namespace Fleet

variable {fleet : Fleet}

/-- Some hosts of a fleet are all in one cluster, and there is at least one of them. -/
structure Gathered (fleet : Fleet) (clusters : Clusters) (members : List Text) : Prop where
  nonempty : members ≠ []
  known : ∀ member ∈ members, member ∈ fleet.hosts
  together : clusters.Together members

/-- Hosts that are gathered stay so while clusters only merge. -/
theorem Gathered.mono {clusters later : Clusters} {members : List Text}
    (gathered : fleet.Gathered clusters members) (grown : clusters ≤ later) :
    fleet.Gathered later members :=
  { gathered with together := gathered.together.mono grown }

/-- So far, hosts were only asked to take in another one while they were gathered. -/
def Sound (fleet : Fleet) (course : Course) : Prop :=
  -- What counts are the clusters at the moment of the request, not those that came later.
  ∀ turn ∈ course.past, ∀ host members watched, turn.call = .add host members watched →
    fleet.Gathered turn.clusters members

/-- A question for the status goes to nobody who could merge anything. -/
theorem Sound.status {course : Course} (sound : fleet.Sound course) (clusters : Clusters)
    (hosts : List Text) (watched : Bool) :
    fleet.Sound (fleet.after course (.status hosts watched) clusters) := by
  -- The one turn more is no request to take in a host.
  intro turn inside host members asked same
  rcases List.mem_append.mp inside with before | now
  · exact sound turn before host members asked same
  · cases List.mem_singleton.mp now
    cases same

/-- Asking gathered hosts to take in another one is sound. -/
theorem Sound.add {course : Course} (sound : fleet.Sound course) (clusters : Clusters)
    {members : List Text} (gathered : fleet.Gathered course.clusters members) (host : Text)
    (watched : Bool) :
    fleet.Sound (fleet.after course (.add host members watched) clusters) := by
  -- The one turn more meets the clusters in which the hosts are gathered.
  intro turn inside other others asked same
  rcases List.mem_append.mp inside with before | now
  · exact sound turn before other others asked same
  · cases List.mem_singleton.mp now
    cases same
    exact gathered

/-- The set of hosts that a report of a host names is gathered. -/
theorem gathered_of_report {past : List Turn} {clusters : Clusters} {host : Text} {answer : Report}
    {names : List Text} (known : host ∈ fleet.hosts)
    (answered : fleet.report past clusters [host] = .ok answer) (named : answer.hosts = .ok names) :
    fleet.Gathered clusters (Members.ofList names) := by
  -- A report names exactly the cluster of the host that was asked.
  obtain ⟨all, read, exactly⟩ := fleet.report_names past known answered
  cases named.symm.trans read
  have inside : ∀ other, other ∈ Members.ofList names ↔ other ∈ fleet.hosts ∧ clusters host other := by
    simpa using exactly
  refine ⟨?_, fun member isMember => ((inside member).mp isMember).1, ?_⟩
  · -- The host itself is in its cluster.
    exact List.ne_nil_of_mem ((inside host).mpr ⟨known, clusters.refl' host⟩)
  · intro first firstIn second secondIn
    exact clusters.trans' (clusters.symm' ((inside first).mp firstIn).2) ((inside second).mp secondIn).2

end Fleet

variable {fleet : Fleet} {watched : Bool}

/-- Probing changes no more than others do, and what it finds is gathered. -/
theorem Discovery.probe_sound {endpoints : List Text} {course after : Course}
    {result : Except Failure (Option (List Text))}
    (known : ∀ endpoint ∈ endpoints, Endpoint.host endpoint ∈ fleet.hosts)
    (sound : fleet.Sound course)
    (ran : (probe fleet.plane watched (endpoints.map .text)).outcome course = (result, after)) :
    fleet.Sound after ∧ course.clusters ≤ after.clusters ∧
      ∀ members, result = .ok (some members) → fleet.Gathered after.clusters members := by
  -- Each question leaves a sound course with clusters that only merged.
  induction endpoints generalizing course with
  | nil =>
    rw [List.map_nil, probe_nil] at ran
    cases ran
    exact ⟨sound, le_rfl, by simp⟩
  | cons endpoint rest ih =>
    have hostKnown := known endpoint (by simp)
    have asked := sound.status course.clusters [Endpoint.host endpoint] watched
    have merged := fleet.le_after course (.status [Endpoint.host endpoint] watched) course.clusters
    rw [probe_cons, Action.outcome_bind_of_ok (fleet.outcome_note course _)] at ran
    -- A host that fails to answer ends the search, and so does one that is not alone.
    cases answered : fleet.report (course.pastWith (.status [Endpoint.host endpoint] watched))
        course.clusters [Endpoint.host endpoint] with
    | error failure =>
      rw [Action.outcome_bind_of_error (by rw [fleet.outcome_status, answered])] at ran
      cases ran
      exact ⟨asked, merged, by simp⟩
    | ok report =>
      rw [Action.outcome_bind_of_ok (by rw [fleet.outcome_status, answered])] at ran
      by_cases alone : report.isStandalone
      · rw [if_pos alone] at ran
        -- Alone or not, the first server merged clusters at most, so the rest of the search starts from a sound
        -- course.
        obtain ⟨later, grown, found⟩ := ih (fun other inside => known other (by simp [inside])) asked ran
        exact ⟨later, merged.trans grown, found⟩
      · rw [if_neg alone] at ran
        -- The report names the members, and naming them gathers them in the clusters of that moment.
        obtain ⟨names, named, _⟩ := fleet.report_names _ hostKnown answered
        have gathered := Fleet.gathered_of_report hostKnown answered named
        rw [membersOf_of_hosts named gathered.nonempty,
          Action.outcome_bind_of_ok (fleet.outcome_note _ _)] at ran
        cases ran
        refine ⟨asked, merged, fun members found => ?_⟩
        cases found
        exact gathered.mono merged

/-- Discovery changes no more than others do, and what it settles on is gathered. -/
theorem Discovery.membership_sound {endpoint : Text} {rest : List Text} {course after : Course}
    {result : Except Failure (List Text)}
    (known : ∀ other ∈ endpoint :: rest, Endpoint.host other ∈ fleet.hosts)
    (sound : fleet.Sound course)
    (ran : (membership fleet.plane (.texts (endpoint :: rest)) watched).outcome course =
      (result, after)) :
    fleet.Sound after ∧ course.clusters ≤ after.clusters ∧
      ∀ members, result = .ok members → fleet.Gathered after.clusters members := by
  -- After probing only messages follow, so probing decides what is sound and how clusters grew.
  rw [membership_texts] at ran
  rcases searched : (probe fleet.plane watched ((endpoint :: rest).map .text)).outcome course with
    ⟨failure | found, probed⟩
  · obtain ⟨later, grown, _⟩ := probe_sound known sound searched
    rw [Action.outcome_bind_of_error searched] at ran
    cases ran
    exact ⟨later, grown, by simp⟩
  · obtain ⟨later, grown, gathered⟩ := probe_sound known sound searched
    rw [Action.outcome_bind_of_ok searched] at ran
    cases found with
    | some names =>
      cases ran
      refine ⟨later, grown, fun members same => ?_⟩
      cases same
      exact gathered _ rfl
    | none =>
      -- The elected host is together with itself.
      cases ran
      refine ⟨later, grown, fun members same => ?_⟩
      cases same
      exact ⟨by simp, by simpa using known endpoint (by simp), fun first firstIn second secondIn => by
        rw [List.mem_singleton.mp firstIn, List.mem_singleton.mp secondIn]⟩

/-- Adding to gathered members is sound, and if it succeeds, every endpoint is together with them. -/
theorem Join.addAll_sound {members endpoints : List Text} {course after : Course}
    {result : Except Failure Unit}
    (known : ∀ endpoint ∈ endpoints, Endpoint.host endpoint ∈ fleet.hosts)
    (gathered : fleet.Gathered course.clusters members) (sound : fleet.Sound course)
    (ran : (addAll fleet.plane members watched (endpoints.map .text)).outcome course =
      (result, after)) :
    fleet.Sound after ∧ (result = .ok () → course.clusters ≤ after.clusters ∧
      ∀ endpoint ∈ endpoints, after.clusters.Together (Endpoint.host endpoint :: members)) := by
  -- Clusters only merge, so the members stay together to the end, with everything added to them.
  induction endpoints generalizing course with
  | nil =>
    rw [List.map_nil, addAll_nil] at ran
    cases ran
    exact ⟨sound, fun _ => ⟨le_rfl, by simp⟩⟩
  | cons endpoint rest ih =>
    have restKnown : ∀ other ∈ rest, Endpoint.host other ∈ fleet.hosts :=
      fun other inside => known other (by simp [inside])
    by_cases inside : Endpoint.host endpoint ∈ members
    · rw [addAll_cons_of_mem inside] at ran
      -- A member is together with the members already, and stays so.
      obtain ⟨later, ended⟩ := ih restKnown gathered sound ran
      refine ⟨later, fun done => ?_⟩
      obtain ⟨grown, joined⟩ := ended done
      refine ⟨grown, List.forall_mem_cons.mpr ⟨?_, joined⟩⟩
      exact (gathered.together.mono grown).subset (List.cons_subset.mpr ⟨inside, List.Subset.refl _⟩)
    · rw [addAll_cons_of_not_mem inside, Action.outcome_bind_of_ok (fleet.outcome_note course _)] at ran
      -- The members are gathered still, so the request is sound whether it is granted or not.
      have asked := fun clusters => sound.add clusters gathered (Endpoint.host endpoint) watched
      have left := fleet.le_after course (.add (Endpoint.host endpoint) members watched)
      rcases fleet.take_merges (course.pastWith (.add (Endpoint.host endpoint) members watched))
          (known endpoint (by simp)) gathered.nonempty gathered.known gathered.together with
        taken | ⟨failure, refused⟩
      · -- A merge puts the endpoint together with the members, and what follows keeps them together.
        rw [Action.outcome_bind_of_ok (by rw [fleet.outcome_add, taken])] at ran
        have merged := Clusters.le_merge.trans
          (left (course.clusters.merge (Endpoint.host endpoint :: members)))
        obtain ⟨later, ended⟩ := ih restKnown (gathered.mono merged) (asked _) ran
        refine ⟨later, fun done => ?_⟩
        obtain ⟨grown, joined⟩ := ended done
        refine ⟨merged.trans grown, List.forall_mem_cons.mpr ⟨?_, joined⟩⟩
        exact Clusters.together_merge.mono ((left _).trans grown)
      · rw [Action.outcome_bind_of_error (by rw [fleet.outcome_add, refused])] at ran
        cases ran
        exact ⟨asked _, by simp⟩

/-- Hosts that are each together with the same members are together. -/
theorem Clusters.together_of_members {clusters : Clusters} {members endpoints : List Text}
    (nonempty : members ≠ [])
    (joined : ∀ endpoint ∈ endpoints, clusters.Together (Endpoint.host endpoint :: members)) :
    clusters.Together (endpoints.map Endpoint.host) := by
  -- The way from one to the other leads over any of the members.
  obtain ⟨member, inside⟩ := List.exists_mem_of_ne_nil members nonempty
  refine together_of_near member fun host isHost => ?_
  obtain ⟨endpoint, isEndpoint, rfl⟩ := List.mem_map.mp isHost
  exact joined endpoint isEndpoint _ (by simp) member (by simp [inside])

/-- Joining is sound, and if it succeeds, all endpoints are together. -/
theorem Join.join_sound {endpoints : List Text} {course after : Course} {result : Except Failure Unit}
    (known : ∀ endpoint ∈ endpoints, Endpoint.host endpoint ∈ fleet.hosts)
    (sound : fleet.Sound course)
    (ran : (join fleet.plane (.texts endpoints) watched).outcome course = (result, after)) :
    fleet.Sound after ∧
      (result = .ok () → after.clusters.Together (endpoints.map Endpoint.host)) := by
  match endpoints, known, ran with
  | [], _, ran =>
    cases ran
    exact ⟨sound, by simp [Clusters.Together]⟩
  | [only], _, ran =>
    cases ran
    -- A single host is together with itself.
    exact ⟨sound, fun _ => by simp [Clusters.Together]⟩
  | endpoint :: other :: rest, known, ran =>
    rw [join_of_length_ge (by simp)] at ran
    rcases discovered : (Discovery.membership fleet.plane (.texts (endpoint :: other :: rest))
        watched).outcome course with ⟨failure | members, settled⟩
    -- Without a membership nobody is asked to take in anything.
    · obtain ⟨later, _⟩ := Discovery.membership_sound known sound discovered
      rw [Action.outcome_bind_of_error discovered] at ran
      cases ran
      exact ⟨later, by simp⟩
    · obtain ⟨later, _, gathers⟩ := Discovery.membership_sound known sound discovered
      have gathered := gathers members rfl
      rw [Action.outcome_bind_of_ok discovered] at ran
      obtain ⟨last, ended⟩ := addAll_sound known gathered later ran
      exact ⟨last, fun done => Clusters.together_of_members gathered.nonempty (ended done).2⟩

/--
A joining that succeeds leaves the hosts of all endpoints in one cluster. Others may merge clusters between
any two of its calls, and servers may report and refuse as they like.

Whether it succeeds or not, each request to take in a host goes to at least one host, and the hosts it
goes to are in one cluster when it is made.
-/
theorem Join.join_converges (fleet : Fleet) (endpoints : List Text) (watched : Bool)
    (clusters : Clusters) (known : ∀ endpoint ∈ endpoints, Endpoint.host endpoint ∈ fleet.hosts) :
    let run := (join fleet.plane (.texts endpoints) watched).outcome { clusters, past := [] }
    (run.1 = .ok () → run.2.clusters.Together (endpoints.map Endpoint.host)) ∧
      ∀ turn ∈ run.2.past, ∀ host members asked, turn.call = .add host members asked →
        members ≠ [] ∧ (∀ member ∈ members, member ∈ fleet.hosts) ∧
          turn.clusters.Together members := by
  intro run
  -- Nothing was asked before, so the course is sound to begin with.
  have quiet : fleet.Sound { clusters, past := [] } := by
    intro turn inside
    simp at inside
  obtain ⟨sound, together⟩ := join_sound known quiet (show run = (run.1, run.2) from rfl)
  refine ⟨together, fun turn inside host members asked same => ?_⟩
  obtain ⟨nonempty, inFleet, gathered⟩ := sound turn inside host members asked same
  exact ⟨nonempty, inFleet, gathered⟩

/-- Three servers, two of which others bring together as soon as they can. -/
noncomputable def Fleet.trio : Fleet :=
  .ofHosts ["a", "b", "c"] (by decide) (·.merge ["b", "c"]) (fun _ => Clusters.le_merge)
    (fun _ _ _ => False)

/-- Nothing fails in that fleet. -/
theorem Fleet.trio_answers : Fleet.trio.plane.Answers where
  -- Reports name texts, and nobody is refused.
  status _ _ course := ⟨_, _, _, rfl, Report.hosts_of_texts _⟩
  add _ _ _ course := by
    refine ⟨_, Prod.ext ?_ rfl⟩
    rw [Fleet.outcome_add]
    simp [Fleet.trio, Fleet.ofHosts]
  note _ course := ⟨course, rfl⟩

/-- Endpoints end up together though one of them was brought elsewhere between two calls. -/
theorem Join.join_converges_trio :
    (∀ endpoint ∈ (["https://a", "b"] : List Text), Endpoint.host endpoint ∈ Fleet.trio.hosts) ∧
    let run := (join Fleet.trio.plane (.texts ["https://a", "b"]) true).outcome
      { clusters := .apart, past := [] }
    run.1 = .ok () ∧ run.2.clusters.Together ["a", "b"] := by
  have known : ∀ endpoint ∈ (["https://a", "b"] : List Text),
      Endpoint.host endpoint ∈ Fleet.trio.hosts := by
    change ∀ endpoint ∈ (["https://a", "b"] : List Text),
      Endpoint.host endpoint ∈ (["a", "b", "c"] : List Text)
    decide
  -- Success is known from what the servers answer, without computing the clusters.
  have succeeded : ((join Fleet.trio.plane (.texts ["https://a", "b"]) true).outcome
      { clusters := .apart, past := [] }).1 = .ok () := by
    obtain ⟨_, done⟩ := join_of_answers Fleet.trio_answers ["https://a", "b"] { clusters := .apart, past := [] }
    exact congrArg Prod.fst done
  exact ⟨known, succeeded, (join_converges Fleet.trio ["https://a", "b"] true .apart known).1 succeeded⟩

end KeyCluster

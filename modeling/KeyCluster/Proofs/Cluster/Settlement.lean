import KeyCluster.Proofs.Cluster.Fleet
import KeyCluster.Proofs.Cluster.Trace

/-! When a joining without interference succeeds, what it leaves, and that it need not be repeated. -/

namespace KeyCluster

/-- A fleet that nobody else is at work on. Every server reports each host of its cluster once, and a host is
taken in exactly if it is alone, or in the cluster already. -/
structure Fleet.Orderly (fleet : Fleet) : Prop where
  undisturbed : ∀ past clusters, fleet.others past clusters = clusters
  /-- Every question is answered, and no host is named twice. -/
  reports : ∀ past clusters, ∀ host ∈ fleet.hosts, ∃ answer names,
    fleet.report past clusters [host] = .ok answer ∧ answer.hosts = .ok names ∧ names.Nodup
  /-- Who is alone or in the cluster already is taken in. -/
  takes : ∀ past {clusters host members}, host ∈ fleet.hosts → members ≠ [] →
    (∀ member ∈ members, member ∈ fleet.hosts) → clusters.Together members →
      fleet.Alone clusters host ∨ clusters.Together (host :: members) →
        fleet.take past clusters host members = (.ok (), clusters.merge (host :: members))
  /-- Everyone else is refused. -/
  refuses : ∀ past {clusters host members}, host ∈ fleet.hosts → members ≠ [] →
    (∀ member ∈ members, member ∈ fleet.hosts) → clusters.Together members →
      ¬ (fleet.Alone clusters host ∨ clusters.Together (host :: members)) →
        ∃ failure, fleet.take past clusters host members = (.error failure, clusters)

variable {fleet : Fleet} {clusters : Clusters}

/-- The members of a cluster, told by one of them. -/
def Fleet.IsClusterOf (fleet : Fleet) (clusters : Clusters) (seed : Text) (members : List Text) : Prop :=
  ∀ host, host ∈ members ↔ host ∈ fleet.hosts ∧ clusters seed host

/-- A host that a cluster can take in, or has already. -/
def Fleet.Fits (fleet : Fleet) (clusters : Clusters) (seed host : Text) : Prop :=
  -- A host that is neither is in another cluster of several, which would have to be left.
  fleet.Alone clusters host ∨ clusters host seed

namespace Fleet

/-- The members of a cluster are together. -/
theorem IsClusterOf.together {seed : Text} {members : List Text}
    (exactly : fleet.IsClusterOf clusters seed members) : clusters.Together members :=
  fun first firstIn second secondIn =>
    clusters.trans' (clusters.symm' ((exactly first).mp firstIn).2) ((exactly second).mp secondIn).2

/-- A host is a member of its own cluster. -/
theorem IsClusterOf.self_mem {seed : Text} {members : List Text}
    (exactly : fleet.IsClusterOf clusters seed members) (known : seed ∈ fleet.hosts) :
    seed ∈ members :=
  (exactly seed).mpr ⟨known, clusters.refl' seed⟩

/-- Without others, a call leaves the clusters that it makes. -/
theorem after_of_orderly (orderly : fleet.Orderly) (course : Course) (call : Call)
    (clusters : Clusters) :
    fleet.after course call clusters = { clusters, past := course.pastWith call } := by
  rw [after, orderly.undisturbed]

/-- A question is answered with the cluster of the host, and a host is said to be alone when it is. -/
theorem outcome_status_orderly (orderly : fleet.Orderly) {host : Text} (known : host ∈ fleet.hosts)
    (watched : Bool) (course : Course) : ∃ answer names,
    (fleet.plane.status [host] watched).outcome course =
        (.ok answer, { course with past := course.pastWith (.status [host] watched) }) ∧
      (answer.isStandalone = true ↔ fleet.Alone course.clusters host) ∧ answer.hosts = .ok names ∧
      fleet.IsClusterOf course.clusters host (Members.ofList names) := by
  -- The report that comes is the one that names exactly the cluster of the host.
  obtain ⟨answer, names, answered, named, once⟩ :=
    orderly.reports (course.pastWith (.status [host] watched)) course.clusters host known
  obtain ⟨_, read, exactly⟩ := fleet.report_names _ known answered
  cases named.symm.trans read
  have self : host ∈ names := (exactly host).mpr ⟨known, course.clusters.refl' host⟩
  refine ⟨answer, names, ?_, ?_, named, fun other => by rw [Members.mem_ofList, exactly]⟩
  · rw [outcome_status, answered, after_of_orderly orderly]
  rw [Report.isStandalone_iff named]
  constructor
  · -- A single name is that of the host, so nobody else is with it.
    intro single other inFleet near
    have inside : other ∈ names := (exactly other).mpr ⟨inFleet, near⟩
    obtain ⟨name, rfl⟩ := List.length_eq_one_iff.mp single
    rw [List.mem_singleton.mp inside, List.mem_singleton.mp self]
  · intro alone
    -- All names are the host, and none is there twice.
    have only : names ⊆ [host] := fun other inside =>
      List.mem_singleton.mpr (alone other ((exactly other).mp inside).1 ((exactly other).mp inside).2)
    have most := once.length_le_of_subset only
    have some := List.length_pos_of_mem self
    rw [List.length_singleton] at most
    omega

end Fleet

/-- Some turns hold no request to take in a host. -/
def NoAdds (turns : List Turn) : Prop :=
  ∀ turn ∈ turns, ∀ host members watched, turn.call ≠ .add host members watched

namespace Discovery

/-- Probing asks around, and stops at the first endpoint that is not alone, with its whole cluster. -/
theorem probe_orderly (orderly : fleet.Orderly) {endpoints : List Text}
    (known : ∀ endpoint ∈ endpoints, Endpoint.host endpoint ∈ fleet.hosts) (watched : Bool)
    (clusters : Clusters) (past : List Turn) :
    ∃ found probes, (probe fleet.plane watched (endpoints.map .text)).outcome { clusters, past } =
        (.ok found, { clusters, past := past ++ probes }) ∧ NoAdds probes ∧
      ((found = none ∧ ∀ endpoint ∈ endpoints, fleet.Alone clusters (Endpoint.host endpoint)) ∨
        ∃ endpoint ∈ endpoints, ∃ members, found = some members ∧
          ¬ fleet.Alone clusters (Endpoint.host endpoint) ∧
          fleet.IsClusterOf clusters (Endpoint.host endpoint) members) := by
  -- Nobody else is at work, so the clusters stay as they are from question to question.
  induction endpoints generalizing past with
  | nil => exact ⟨none, [], by simp [probe_nil], by simp [NoAdds], .inl ⟨rfl, by simp⟩⟩
  | cons endpoint rest ih =>
    have hostKnown := known endpoint (by simp)
    obtain ⟨answer, names, answered, standalone, named, exactly⟩ :=
      Fleet.outcome_status_orderly orderly hostKnown watched { clusters, past }
    rw [probe_cons, Action.outcome_bind_of_ok (fleet.outcome_note _ _),
      Action.outcome_bind_of_ok answered]
    by_cases alone : fleet.Alone clusters (Endpoint.host endpoint)
    · -- A server that is alone is passed over, and the question to it is the only thing that is left of it.
      rw [if_pos (standalone.mpr alone)]
      obtain ⟨found, probes, searched, quiet, settled⟩ :=
        ih (fun other inside => known other (by simp [inside]))
          (past ++ [⟨.status [Endpoint.host endpoint] watched, clusters⟩])
      refine ⟨found, ⟨.status [Endpoint.host endpoint] watched, clusters⟩ :: probes, ?_, ?_, ?_⟩
      · rw [List.append_cons]
        exact searched
      · exact List.forall_mem_cons.mpr ⟨by simp, quiet⟩
      · rcases settled with ⟨missing, others⟩ | ⟨other, inside, rest⟩
        · exact .inl ⟨missing, List.forall_mem_cons.mpr ⟨alone, others⟩⟩
        · exact .inr ⟨other, by simp [inside], rest⟩
    · -- The report names the host itself, so it has members.
      have some : Members.ofList names ≠ [] := List.ne_nil_of_mem (exactly.self_mem hostKnown)
      rw [if_neg fun said => alone (standalone.mp said), membersOf_of_hosts named some,
        Action.outcome_bind_of_ok (fleet.outcome_note _ _)]
      exact ⟨_, [⟨.status [Endpoint.host endpoint] watched, clusters⟩], rfl, by simp [NoAdds],
        .inr ⟨endpoint, by simp, _, rfl, alone, exactly⟩⟩

/-- Discovery settles on the cluster of an endpoint, which is not alone unless all endpoints are. -/
theorem membership_orderly (orderly : fleet.Orderly) {endpoint : Text} {rest : List Text}
    (known : ∀ other ∈ endpoint :: rest, Endpoint.host other ∈ fleet.hosts) (watched : Bool)
    (clusters : Clusters) (past : List Turn) :
    ∃ members probes, ∃ seed ∈ endpoint :: rest,
      (membership fleet.plane (.texts (endpoint :: rest)) watched).outcome { clusters, past } =
        (.ok members, { clusters, past := past ++ probes }) ∧ NoAdds probes ∧
      fleet.IsClusterOf clusters (Endpoint.host seed) members ∧
      (fleet.Alone clusters (Endpoint.host seed) →
        ∀ other ∈ endpoint :: rest, fleet.Alone clusters (Endpoint.host other)) := by
  obtain ⟨found, probes, searched, quiet, ⟨rfl, alone⟩ | ⟨seed, inside, members, rfl, crowded, exactly⟩⟩ :=
    probe_orderly orderly known watched clusters past
  · -- All are alone, and so is the one that is elected.
    refine ⟨[Endpoint.host endpoint], probes, endpoint, by simp, ?_, quiet, fun other => ?_, fun _ => alone⟩
    · rw [membership_texts, Action.outcome_bind_of_ok searched]
      rfl
    · -- A host that is alone is the whole of its cluster.
      have hostKnown := known endpoint (by simp)
      rw [List.mem_singleton]
      constructor
      · rintro rfl
        exact ⟨hostKnown, clusters.refl' _⟩
      · rintro ⟨inFleet, near⟩
        exact alone endpoint (by simp) other inFleet near
  · -- Where members are found, the endpoint that reported them is not alone.
    refine ⟨members, probes, seed, inside, ?_, quiet, exactly, fun alone => absurd alone crowded⟩
    rw [membership_texts, Action.outcome_bind_of_ok searched]
    rfl

end Discovery

namespace Fleet

/-- A host is with all members of a cluster if it is with one of them. -/
theorem together_iff_near {seed : Text} {members : List Text} (together : clusters.Together members)
    (isMember : seed ∈ members) (host : Text) :
    clusters.Together (host :: members) ↔ clusters host seed := by
  -- Members are with one another, so being with the seed is being with all.
  constructor
  · exact fun joined => joined host (by simp) seed (by simp [isMember])
  · intro near
    refine Clusters.together_of_near seed (List.forall_mem_cons.mpr ⟨near, fun other inside => ?_⟩)
    exact together other inside seed isMember

/-- What fits a cluster still fits it, and nothing else does, once a host that fits was taken in. -/
theorem fits_merge {seed host : Text} {members : List Text}
    (exactly : ∀ member ∈ members, member ∈ fleet.hosts) (together : clusters.Together members)
    (isMember : seed ∈ members) (known : host ∈ fleet.hosts) (fit : fleet.Fits clusters seed host)
    {other : Text} (otherKnown : other ∈ fleet.hosts) :
    fleet.Fits (clusters.merge (host :: members)) seed other ↔ fleet.Fits clusters seed other := by
  -- Only hosts in the cluster of the seed, or the new one, come to be with anybody new.
  have near : ∀ member ∈ members, clusters member seed := fun member inside =>
    together member inside seed isMember
  constructor
  · rintro (alone | same | ⟨⟨reached, inside, met⟩, _⟩)
    · -- From right to left it is only the growth of clusters; the other direction is the one that needs the
      -- fit.
      exact .inl fun third inFleet met => alone third inFleet (Clusters.le_merge met)
    · exact .inr same
    · -- The other is in a cluster that merged, so in that of the host or in that of the members.
      rcases List.mem_cons.mp inside with rfl | inside
      · rcases fit with alone | same
        · have same := alone other otherKnown (clusters.symm' met)
          exact .inl (same ▸ alone)
        · exact .inr (clusters.trans' met same)
      · exact .inr (clusters.trans' met (near reached inside))
  · rintro (alone | same)
    · by_cases merged : other ∈ host :: members
      · exact .inr (Clusters.together_merge other merged seed (List.mem_cons_of_mem _ isMember))
      · -- Nothing merged with a host that is alone and not among those that did.
        refine .inl ?_
        rintro third inFleet (met | ⟨⟨reached, inside, met⟩, _⟩)
        · exact alone third inFleet met
        · have inFleet : reached ∈ fleet.hosts := by
            rcases List.mem_cons.mp inside with rfl | inside
            · exact known
            · exact exactly reached inside
          exact absurd (alone reached inFleet met ▸ inside) merged
    · exact .inr (Clusters.le_merge same)

end Fleet

namespace Join

variable {watched : Bool}

/-- Adding to a cluster succeeds exactly if every endpoint fits it, and then all are in it. -/
theorem addAll_orderly (orderly : fleet.Orderly) {seed : Text} {members endpoints : List Text}
    {course after : Course} {result : Except Failure Unit}
    (isMember : seed ∈ members) (inFleet : ∀ member ∈ members, member ∈ fleet.hosts)
    (together : course.clusters.Together members)
    (known : ∀ endpoint ∈ endpoints, Endpoint.host endpoint ∈ fleet.hosts)
    (ran : (addAll fleet.plane members watched (endpoints.map .text)).outcome course =
      (result, after)) :
    (result = .ok () ↔ ∀ endpoint ∈ endpoints, fleet.Fits course.clusters seed (Endpoint.host endpoint)) ∧
      (result = .ok () →
        after.clusters = course.clusters.merge (seed :: endpoints.map Endpoint.host)) := by
  -- What was taken in changes who is in the cluster, but not who fits it.
  induction endpoints generalizing course with
  | nil =>
    rw [List.map_nil, addAll_nil] at ran
    cases ran
    refine ⟨by simp, fun _ => (Clusters.merge_of_together ?_).symm⟩
    exact together.subset (by simpa using isMember)
  | cons endpoint rest ih =>
    have hostKnown := known endpoint (by simp)
    have restKnown : ∀ other ∈ rest, Endpoint.host other ∈ fleet.hosts :=
      fun other inside => known other (by simp [inside])
    by_cases inside : Endpoint.host endpoint ∈ members
    · -- A member fits, and merging it changes nothing.
      rw [addAll_cons_of_mem inside] at ran
      obtain ⟨succeeds, leaves⟩ := ih together restKnown ran
      have same := together _ inside seed isMember
      have joined := together.subset (List.cons_subset.mpr ⟨inside, List.Subset.refl _⟩)
      refine ⟨?_, fun done => ?_⟩
      · rw [List.forall_mem_cons]
        exact succeeds.trans (and_iff_right (.inr same)).symm
      · rw [leaves done, List.map_cons, ← Clusters.merge_merge together isMember,
          Clusters.merge_of_together joined]
    · have near := Fleet.together_iff_near together isMember (Endpoint.host endpoint)
      rw [addAll_cons_of_not_mem inside, Action.outcome_bind_of_ok (fleet.outcome_note course _)] at ran
      by_cases fit : fleet.Fits course.clusters seed (Endpoint.host endpoint)
      · -- Whoever fits is taken in, and the rest of the endpoints meets the larger cluster.
        have taken := orderly.takes (course.pastWith (.add (Endpoint.host endpoint) members watched))
          hostKnown (List.ne_nil_of_mem isMember) inFleet together (fit.imp_right near.mpr)
        rw [Action.outcome_bind_of_ok
          (by rw [fleet.outcome_add, taken, Fleet.after_of_orderly orderly])] at ran
        obtain ⟨succeeds, leaves⟩ := ih (together.mono Clusters.le_merge) restKnown ran
        refine ⟨?_, fun done => ?_⟩
        · rw [List.forall_mem_cons, succeeds]
          refine Iff.trans (forall₂_congr fun other isEndpoint => ?_) (and_iff_right fit).symm
          exact Fleet.fits_merge inFleet together isMember hostKnown fit (restKnown other isEndpoint)
        · -- Later endpoints merge with the seed, and so with what it merged with before.
          rw [leaves done, List.map_cons]
          exact Clusters.merge_merge together isMember
      · -- The first endpoint that does not fit ends the joining.
        obtain ⟨failure, refused⟩ := orderly.refuses
          (course.pastWith (.add (Endpoint.host endpoint) members watched))
          hostKnown (List.ne_nil_of_mem isMember) inFleet together fun cond => fit (cond.imp_right near.mp)
        rw [Action.outcome_bind_of_error (by rw [fleet.outcome_add, refused])] at ran
        cases ran
        exact ⟨⟨by simp, fun all => absurd (all endpoint (by simp)) fit⟩, by simp⟩

/-- With nobody left to add, nothing is done. -/
theorem addAll_of_forall_mem {members endpoints : List Text} (plane : ControlPlane Course)
    (inside : ∀ endpoint ∈ endpoints, Endpoint.host endpoint ∈ members) :
    addAll plane members watched (endpoints.map .text) = pure () := by
  -- Every endpoint is passed over.
  induction endpoints with
  | nil => exact addAll_nil members
  | cons endpoint rest ih =>
    rw [addAll_cons_of_mem (inside endpoint (by simp))]
    exact ih fun other isEndpoint => inside other (by simp [isEndpoint])

/-- Where discovery settles on the cluster of a seed, all endpoints fit it exactly if those that are not
alone are in one cluster. -/
theorem forall_fits_iff {seed : Text} {endpoints : List Text} (isEndpoint : seed ∈ endpoints)
    (settled : fleet.Alone clusters (Endpoint.host seed) →
      ∀ other ∈ endpoints, fleet.Alone clusters (Endpoint.host other)) :
    (∀ endpoint ∈ endpoints, fleet.Fits clusters (Endpoint.host seed) (Endpoint.host endpoint)) ↔
      ∀ first ∈ endpoints, ∀ second ∈ endpoints, ¬ fleet.Alone clusters (Endpoint.host first) →
        ¬ fleet.Alone clusters (Endpoint.host second) →
          clusters (Endpoint.host first) (Endpoint.host second) := by
  constructor
  · -- Endpoints that are not alone are in the cluster of the seed, and so with one another.
    intro fit first firstIn second secondIn firstCrowded secondCrowded
    have left := (fit first firstIn).resolve_left firstCrowded
    have right := (fit second secondIn).resolve_left secondCrowded
    exact clusters.trans' left (clusters.symm' right)
  · intro near endpoint inside
    by_cases alone : fleet.Alone clusters (Endpoint.host endpoint)
    · exact .inl alone
    · -- Then the seed is not alone either, or discovery had not settled on it.
      exact .inr (near endpoint inside seed isEndpoint alone fun only =>
        alone (settled only endpoint inside))

/-- Joining hosts that are together already asks around, and changes nothing. -/
theorem join_of_together (orderly : fleet.Orderly) {endpoints : List Text}
    (several : 2 ≤ endpoints.length)
    (known : ∀ endpoint ∈ endpoints, Endpoint.host endpoint ∈ fleet.hosts)
    (together : clusters.Together (endpoints.map Endpoint.host)) (watched : Bool) (past : List Turn) :
    ∃ probes, (join fleet.plane (.texts endpoints) watched).outcome { clusters, past } =
        (.ok (), { clusters, past := past ++ probes }) ∧ NoAdds probes := by
  obtain ⟨endpoint, rest, rfl⟩ := List.exists_cons_of_length_pos (by omega : 0 < endpoints.length)
  obtain ⟨members, probes, seed, isEndpoint, discovered, quiet, exactly, _⟩ :=
    Discovery.membership_orderly orderly known watched clusters past
  refine ⟨probes, ?_, quiet⟩
  -- The cluster that discovery settles on has all endpoints in it.
  have inside : ∀ other ∈ endpoint :: rest, Endpoint.host other ∈ members := fun other otherIn =>
    (exactly _).mpr ⟨known other otherIn,
      together _ (List.mem_map_of_mem isEndpoint) _ (List.mem_map_of_mem otherIn)⟩
  rw [join_of_length_ge several, Action.outcome_bind_of_ok discovered,
    addAll_of_forall_mem fleet.plane inside]
  rfl

/--
Without interference, a joining succeeds exactly if those endpoints that are not alone are in one cluster.

When it succeeds, the clusters of the endpoints have merged, and nothing else has. Joining the same
endpoints again, in any order, then asks nobody to take in anything.
-/
theorem join_settles (orderly : fleet.Orderly) {endpoints : List Text} (several : 2 ≤ endpoints.length)
    (known : ∀ endpoint ∈ endpoints, Endpoint.host endpoint ∈ fleet.hosts) (watched : Bool)
    (clusters : Clusters) (past : List Turn) :
    let run := (join fleet.plane (.texts endpoints) watched).outcome { clusters, past }
    (run.1 = .ok () ↔
      ∀ first ∈ endpoints, ∀ second ∈ endpoints, ¬ fleet.Alone clusters (Endpoint.host first) →
        ¬ fleet.Alone clusters (Endpoint.host second) →
          clusters (Endpoint.host first) (Endpoint.host second)) ∧
      (run.1 = .ok () → run.2.clusters = clusters.merge (endpoints.map Endpoint.host) ∧
        ∀ again, again.Perm endpoints → ∀ heard later, ∃ probes,
          (join fleet.plane (.texts again) heard).outcome { run.2 with past := later } =
            (.ok (), { run.2 with past := later ++ probes }) ∧ NoAdds probes) := by
  intro run
  obtain ⟨endpoint, rest, rfl⟩ := List.exists_cons_of_length_pos (by omega : 0 < endpoints.length)
  obtain ⟨members, probes, seed, isEndpoint, discovered, _, exactly, settled⟩ :=
    Discovery.membership_orderly orderly known watched clusters past
  -- The seed stands for the cluster that everyone is added to.
  have isMember := exactly.self_mem (known seed isEndpoint)
  have inFleet : ∀ member ∈ members, member ∈ fleet.hosts :=
    fun member inside => ((exactly member).mp inside).1
  have ran : run = (addAll fleet.plane members watched ((endpoint :: rest).map .text)).outcome
      { clusters, past := past ++ probes } := by
    change (join _ _ _).outcome _ = _
    rw [join_of_length_ge several, Action.outcome_bind_of_ok discovered]
  obtain ⟨succeeds, leaves⟩ := addAll_orderly orderly isMember inFleet exactly.together known
    (show _ = (run.1, run.2) from ran.symm)
  refine ⟨succeeds.trans (forall_fits_iff isEndpoint settled), fun done => ?_⟩
  -- The seed is one of the endpoints, so it adds nothing to what merges.
  have merged : run.2.clusters = clusters.merge ((endpoint :: rest).map Endpoint.host) := by
    rw [leaves done]
    exact Clusters.merge_cons_of_mem (List.mem_map_of_mem isEndpoint)
  refine ⟨merged, fun again shuffled heard later => ?_⟩
  -- Any order of the endpoints finds them together now.
  refine join_of_together orderly (by rw [shuffled.length_eq]; exact several)
    (fun other inside => known other (shuffled.mem_iff.mp inside)) ?_ heard later
  rw [merged]
  exact Clusters.together_merge.subset fun host isHost => (shuffled.map Endpoint.host).mem_iff.mp isHost

end Join

/-- Four servers that nobody disturbs, and that refuse a host only if it is in another cluster of several. -/
noncomputable def Fleet.calm : Fleet :=
  .ofHosts ["a", "b", "c", "d"] (by decide) id (fun _ _ _ same => same) fun clusters host members =>
    ¬ ((∀ other ∈ (["a", "b", "c", "d"] : List Text), clusters host other → other = host) ∨
      clusters.Together (host :: members))

/-- They keep order. -/
theorem Fleet.calm_orderly : Fleet.calm.Orderly where
  undisturbed _ _ := rfl
  reports _ clusters host known := by
    -- Names are taken from a list that has each host once.
    refine ⟨_, _, rfl, Report.hosts_of_texts _, ?_⟩
    rw [List.map_congr_left fun inside isHost => Fleet.calm.normal inside (List.mem_filter.mp isHost).1,
      List.map_id']
    exact List.Pairwise.filter _ (by decide)
  takes _ _ _ _ _ _ _ _ fits := if_neg (not_not.mpr fits)
  refuses _ _ _ _ _ _ _ _ other := ⟨_, if_pos other⟩

/-- A host that is alone joins two that are together, and nothing is left to do afterwards. -/
theorem Join.join_settles_calm :
    let run := (join Fleet.calm.plane (.texts ["https://a", "c", "a"]) true).outcome
      { clusters := Clusters.apart.merge ["b", "c"], past := [] }
    run.1 = .ok () ∧ run.2.clusters = (Clusters.apart.merge ["b", "c"]).merge ["a", "c", "a"] ∧
      ∃ probes, (join Fleet.calm.plane (.texts ["c", "a", "https://a"]) true).outcome run.2 =
        (.ok (), { run.2 with past := run.2.past ++ probes }) ∧ NoAdds probes := by
  -- The hosts of the fleet are listed, so this is a matter of looking them up.
  have known : ∀ endpoint ∈ (["https://a", "c", "a"] : List Text),
      Endpoint.host endpoint ∈ Fleet.calm.hosts := by
    change ∀ endpoint ∈ (["https://a", "c", "a"] : List Text),
      Endpoint.host endpoint ∈ (["a", "b", "c", "d"] : List Text)
    decide
  have alone : Fleet.calm.Alone (Clusters.apart.merge ["b", "c"]) "a" := by
    -- Only the two others have merged.
    rintro other _ (same | ⟨⟨reached, inside, met⟩, _⟩)
    · exact same.symm
    · cases (show "a" = reached from met)
      exact absurd inside (by decide)
  obtain ⟨succeeds, settled⟩ := join_settles Fleet.calm_orderly (by decide) known true
    (Clusters.apart.merge ["b", "c"]) []
  -- Only one of the endpoints is in a cluster with others, so no two of them disagree.
  have near : ∀ first ∈ (["https://a", "c", "a"] : List Text),
      ¬ Fleet.calm.Alone (Clusters.apart.merge ["b", "c"]) (Endpoint.host first) → first = "c" := by
    intro first inside crowded
    rcases List.mem_cons.mp inside with rfl | inside
    · exact absurd alone crowded
    rcases List.mem_cons.mp inside with rfl | inside
    · rfl
    · cases List.mem_singleton.mp inside
      exact absurd alone crowded
  have done := succeeds.mpr fun first firstIn second secondIn firstCrowded secondCrowded => by
    rw [near first firstIn firstCrowded, near second secondIn secondCrowded]
  obtain ⟨merged, again⟩ := settled done
  exact ⟨done, merged, again ["c", "a", "https://a"] (by decide) true _⟩

end KeyCluster

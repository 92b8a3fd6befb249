import KeyCluster.Cluster.ControlPlane
import KeyCluster.Proofs.Cluster.Clusters
import KeyCluster.Proofs.Cluster.Report
import KeyCluster.Proofs.Failure.Action

/-! Servers in clusters, among which others may be at work too. -/

namespace KeyCluster

/-- A call, and the clusters at the moment when it is made. -/
structure Turn where
  call : Call
  /-- The clusters that it meets. -/
  clusters : Clusters

/-- Clusters as they are now, and every call so far. -/
structure Course where
  clusters : Clusters
  past : List Turn

/-- The calls so far and one more, which meets the clusters as they are now. -/
def Course.pastWith (course : Course) (call : Call) : List Turn :=
  -- The clusters are those in front of the call, whatever it does to them.
  course.past ++ [{ call, clusters := course.clusters }]

/-- Servers, with all that is left open about them: how they report, whom they refuse, and what others do
between two calls. Each of it may depend on the calls so far. -/
structure Fleet where
  hosts : Set Text
  /-- They are in normal form. -/
  normal : ∀ host ∈ hosts, Endpoint.host host = host
  /-- The clusters once others were at work. -/
  others : List Turn → Clusters → Clusters
  /-- Others merge clusters, and split none. -/
  le_others : ∀ past clusters, clusters ≤ others past clusters
  /-- What comes of asking some hosts for their cluster. -/
  report : List Turn → Clusters → List Text → Except Failure Report
  /-- The report of a host names those in its cluster, in any order, up or down. -/
  report_names : ∀ past {clusters host answer}, host ∈ hosts →
    report past clusters [host] = .ok answer → ∃ names, answer.hosts = .ok names ∧
      ∀ other, other ∈ names ↔ other ∈ hosts ∧ clusters host other
  /-- What comes of asking some hosts to take in another, and the clusters after it. -/
  take : List Turn → Clusters → (host : Text) → (members : List Text) →
    Except Failure Unit × Clusters
  /-- Hosts of one cluster take in another, with its cluster, or refuse and do nothing. Nothing is said
  about hosts of several clusters. -/
  take_merges : ∀ past {clusters host members}, host ∈ hosts → members ≠ [] →
    (∀ member ∈ members, member ∈ hosts) → clusters.Together members →
      take past clusters host members = (.ok (), clusters.merge (host :: members)) ∨
        ∃ failure, take past clusters host members = (.error failure, clusters)

namespace Fleet

/-- The course after a call that left some clusters, once others were at work on them. -/
def after (fleet : Fleet) (course : Course) (call : Call) (clusters : Clusters) : Course where
  -- Others come last, so they are at work in front of every call but the first.
  clusters := fleet.others (course.pastWith call) clusters
  past := course.pastWith call

/-- The control plane of a fleet. -/
def plane (fleet : Fleet) : ControlPlane Course where
  -- A question changes no clusters, and so does a message.
  status hosts watched := fun course =>
    let call := .status hosts watched
    (fleet.report (course.pastWith call) course.clusters hosts, fleet.after course call course.clusters)
  add host members watched := fun course =>
    let call := .add host members watched
    let (result, clusters) := fleet.take (course.pastWith call) course.clusters host members
    (result, fleet.after course call clusters)
  note _ := return ()

variable (fleet : Fleet) (course : Course)

/-- Messages change nothing. -/
theorem outcome_note (entry : Entry) : (fleet.plane.note entry).outcome course = (.ok (), course) :=
  rfl

/-- A question meets the clusters as they are. -/
theorem outcome_status (hosts : List Text) (watched : Bool) :
    (fleet.plane.status hosts watched).outcome course =
      (fleet.report (course.pastWith (.status hosts watched)) course.clusters hosts,
        fleet.after course (.status hosts watched) course.clusters) :=
  rfl

/-- A request to take in a host leaves the clusters that it makes. -/
theorem outcome_add (host : Text) (members : List Text) (watched : Bool) :
    (fleet.plane.add host members watched).outcome course =
      ((fleet.take (course.pastWith (.add host members watched)) course.clusters host members).1,
        fleet.after course (.add host members watched)
          (fleet.take (course.pastWith (.add host members watched)) course.clusters host members).2) :=
  rfl

/-- Others split no cluster that a call leaves. -/
theorem le_after (call : Call) (clusters : Clusters) :
    clusters ≤ (fleet.after course call clusters).clusters :=
  fleet.le_others _ _

/-- A host is the only one in its cluster. -/
def Alone (clusters : Clusters) (host : Text) : Prop :=
  ∀ other ∈ fleet.hosts, clusters host other → other = host

open Classical in
/-- A fleet of some hosts, which name the members of their cluster in a given order, and take in whomever
they do not refuse. -/
noncomputable def ofHosts (hosts : List Text) (normal : ∀ host ∈ hosts, Endpoint.host host = host)
    (others : Clusters → Clusters) (le_others : ∀ clusters, clusters ≤ others clusters)
    (refuses : Clusters → Text → List Text → Prop) : Fleet where
  hosts := { host | host ∈ hosts }
  normal := normal
  others _ := others
  le_others _ := le_others
  -- Whether members are up makes no difference to what they are, so all are said to be down.
  report _ clusters asked :=
    .ok { up := [], down := (hosts.filter fun other => clusters.Reaches asked other).map .text }
  report_names := by
    rintro _ clusters host _ _ ⟨⟩
    refine ⟨_, Report.hosts_of_texts _, fun other => ?_⟩
    rw [List.map_congr_left fun inside isHost => normal inside (List.mem_filter.mp isHost).1,
      List.map_id']
    simp [Clusters.Reaches, clusters.comm']
  take _ clusters host members :=
    if refuses clusters host members then (.error (.api (.unanswered host "refused")), clusters)
    else (.ok (), clusters.merge (host :: members))
  take_merges _ clusters host members _ _ _ _ := by
    -- Refusing is all that can come in between.
    by_cases refused : refuses clusters host members
    · exact .inr ⟨_, if_pos refused⟩
    · exact .inl (if_neg refused)

end Fleet

end KeyCluster

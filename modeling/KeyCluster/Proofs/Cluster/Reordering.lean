import KeyCluster.Proofs.Cluster.Agreement
import KeyCluster.Proofs.Cluster.FailStop
import KeyCluster.Proofs.Cluster.Members

/-! Of a report, a joining uses no more than whether its server is alone and which hosts are members. -/

namespace KeyCluster

/-- Two reports about the same members. Order, numbers, repetitions, and which members are up are free. -/
structure Report.SameMembers (report other : Report) : Prop where
  /-- A server is alone in both or in none. -/
  alone : report.size = 1 ↔ other.size = 1
  /-- Reports of several members name the same hosts, or cannot be read for the same reason. -/
  members : report.size ≠ 1 →
    (∃ names others, report.hosts = .ok names ∧ other.hosts = .ok others ∧
      ∀ host, host ∈ names ↔ host ∈ others) ∨
    ∃ fault, report.hosts = .error fault ∧ other.hosts = .error fault

/-- Where the log is silent, discovery makes the same of reports about the same members. -/
theorem Report.SameMembers.blind (left right : Behaviour) :
    Discovery.Blind SameMembers left.plane right.plane where
  alone _ _ same := Bool.eq_iff_iff.mpr (by simpa only [isStandalone, beq_iff_eq] using same.alone)
  members report other same several host := by
    have crowd : report.size ≠ 1 := by simpa [isStandalone] using several
    rcases same.members crowd with ⟨names, others, named, namedOther, both⟩ | ⟨fault, failed, failedOther⟩
    · -- The hosts form one set, and nothing else is used but the size, for the log.
      simp only [Discovery.membersOf, named, namedOther, Action.ofValue, pure_bind,
        Members.ofList_congr both]
      rfl
    · simp only [Discovery.membersOf, failed, failedOther]
      rfl

namespace Join

/--
Of two behaviours whose reports are about the same members, discovery settles on the same membership, and a
joining makes the same calls with the same arguments in the same order. Both end with the same result or the
same failure.

The members are turned to in one order, whatever the order in the reports.
-/
theorem join_reordered {left right : Behaviour} (agrees : left.plane.Agrees Report.SameMembers right.plane)
    (endpoints : List Text) (watched : Bool) (before : List Call) :
    (Discovery.membership left.plane (.texts endpoints) watched).outcome before =
        (Discovery.membership right.plane (.texts endpoints) watched).outcome before ∧
      (join left.plane (.texts endpoints) watched).outcome before =
        (join right.plane (.texts endpoints) watched).outcome before := by
  -- The endpoints are the same on both sides, so their spelling does not come in.
  have spelled : List.Forall₂ Endpoint.SameHost endpoints endpoints := List.forall₂_same.mpr fun _ _ => rfl
  have blind := Report.SameMembers.blind left right
  exact ⟨congrArg (Action.outcome · before) (Discovery.membership_eq agrees blind watched spelled),
    congrArg (Action.outcome · before) (join_eq agrees blind watched spelled)⟩

/-- Servers that report what they are given for the hosts that are asked, and take in every host. -/
def reporting (report : List Text → Report) : Behaviour
  | _, .status hosts _ => .ok (report hosts)
  | _, .add _ _ _ => .ok ()

/-- Servers behave alike if all of their reports are about the same members. -/
theorem reporting_agrees {reportOf other : List Text → Report}
    (same : ∀ hosts, (reportOf hosts).SameMembers (other hosts)) :
    (reporting reportOf).plane.Agrees Report.SameMembers (reporting other).plane :=
  ⟨fun hosts _ => ⟨fun _ => .ok (same hosts), fun _ => rfl⟩, fun _ _ _ => rfl, fun _ => rfl⟩

/-- One server that is alone, and a cluster of three in which one member is down. -/
def clusterListed (hosts : List Text) : Report :=
  if hosts = ["a"] then ⟨[⟨1, .text "a"⟩], []⟩
  else ⟨[⟨1, .text "b"⟩, ⟨2, .text "a"⟩], [.text "d"]⟩

/-- The same servers in other reports: numbers and order differ, and a member is listed twice. -/
def clusterRelisted (hosts : List Text) : Report :=
  if hosts = ["a"] then ⟨[], [.int 0]⟩
  else ⟨[⟨7, .text "d"⟩, ⟨7, .text "a"⟩, ⟨9, .text "d"⟩], [.text "b"]⟩

/-- The reports are about the same members. -/
theorem clusterListed_sameMembers (hosts : List Text) :
    (clusterListed hosts).SameMembers (clusterRelisted hosts) := by
  unfold clusterListed clusterRelisted
  -- Only the reports of one host differ, and these name the same hosts in another order and number.
  split
  · exact ⟨by decide, fun crowd => absurd rfl crowd⟩
  · refine ⟨by decide, fun _ => .inl ⟨["b", "a", "d"], ["d", "a", "d", "b"], rfl, rfl, fun host => ?_⟩⟩
    simp only [List.mem_cons, List.not_mem_nil, or_false]
    tauto

/-- An endpoint outside the cluster is added through the same members, whichever way they are listed. -/
theorem join_reordered_cluster :
    (reporting clusterListed).plane.Agrees Report.SameMembers (reporting clusterRelisted).plane ∧
    (join (reporting clusterListed).plane (.texts ["a", "b", "c"]) true).outcome [] =
      (.ok (), [.status ["a"] true, .status ["b"] true, .add "c" ["a", "b", "d"] true]) ∧
    (join (reporting clusterRelisted).plane (.texts ["a", "b", "c"]) true).outcome [] =
      (.ok (), [.status ["a"] true, .status ["b"] true, .add "c" ["a", "b", "d"] true]) := by
  have agrees := reporting_agrees clusterListed_sameMembers
  have ran : (join (reporting clusterListed).plane (.texts ["a", "b", "c"]) true).outcome [] =
      (.ok (), [.status ["a"] true, .status ["b"] true, .add "c" ["a", "b", "d"] true]) := rfl
  -- The second run is not computed: it comes to the same as the first one.
  exact ⟨agrees, ran, (join_reordered agrees ["a", "b", "c"] true []).2.symm.trans ran⟩

end Join

end KeyCluster

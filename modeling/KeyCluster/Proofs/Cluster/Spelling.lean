import KeyCluster.Proofs.Cluster.Agreement
import KeyCluster.Proofs.Cluster.Calls

/-! How a host is spelled does not matter, neither in the endpoints that are joined nor in the reports about
them. -/

namespace KeyCluster

variable {σ : Type} {left right : ControlPlane σ}

/-- A value in a report, and what can stand in its place. -/
inductive Value.Respells : Value → Value → Prop
  | same (v : Value) : Respells v v
  /-- A text can be replaced by another spelling of its host. -/
  | text {endpoint other : Text} (same : Endpoint.SameHost endpoint other) :
    Respells (.text endpoint) (.text other)

/-- Another spelling names the same host, or is as unfit to name one. -/
theorem Value.Respells.hostOf {v w : Value} (respelled : v.Respells w) :
    Endpoint.hostOf v = Endpoint.hostOf w := by
  cases respelled with
  | same => rfl
  | text same => exact congrArg Except.ok same

/-- Two reports list the same members in the same places, some of them spelled differently. -/
structure Report.Respelled (report other : Report) : Prop where
  /-- Members that are up keep their numbers. -/
  up : List.Forall₂ (fun node member => node.id = member.id ∧ node.host.Respells member.host)
    report.up other.up
  /-- Members that are down have none. -/
  down : List.Forall₂ Value.Respells report.down other.down

namespace Report.Respelled

variable {report other : Report}

/-- A report keeps its size when hosts in it are respelled. -/
theorem size (respelled : report.Respelled other) : report.size = other.size :=
  congrArg₂ (· + ·) respelled.up.length_eq respelled.down.length_eq

/-- It names the same hosts, in the same order. -/
theorem hosts (respelled : report.Respelled other) : report.hosts = other.hosts := by
  -- Members that are up come first, and only their hosts are read.
  have up : List.Forall₂ Value.Respells (report.up.map Node.host) (other.up.map Node.host) :=
    List.forall₂_map_left_iff.mpr
      (List.forall₂_map_right_iff.mpr (respelled.up.imp fun _ _ named => named.2))
  exact mapM_congr ((List.rel_append up respelled.down).imp fun _ _ => Value.Respells.hostOf)

/-- Discovery makes the same of reports that are spelled differently, and it logs the same. -/
theorem blind (tells : ∀ entry, left.note entry = right.note entry) :
    Discovery.Blind Report.Respelled left right where
  alone _ _ respelled := by rw [isStandalone, isStandalone, respelled.size]
  members report other respelled _ host := by
    -- The message about a cluster shows its size beside its members.
    simp only [Discovery.membersOf, respelled.hosts, respelled.size, tells]

end Report.Respelled

/-- Servers that do the same do so beside a list of what happens, and the lists are the same. -/
theorem ControlPlane.Agrees.recorded {like : Report → Report → Prop} (agrees : left.Agrees like right) :
    left.recorded.Agrees like right.recorded where
  status hosts watched :=
    ⟨fun (state, _) => (agrees.status hosts watched).result state,
      fun (state, events) => congrArg (·, events ++ [.call (.status hosts watched)])
        ((agrees.status hosts watched).state state)⟩
  add host hosts watched := by simp only [ControlPlane.recorded, agrees.add]
  note entry := by simp only [ControlPlane.recorded, agrees.note]

namespace Join

/--
Endpoints that spell the same hosts are joined alike: with the same result or failure, the same calls with
the same arguments, and the same messages to the log, all in the same order.

So it is when hosts in reports are respelled as well. Any host in any report can be, as long as its normal
form stays.
-/
theorem join_respelled {endpoints others : List Text}
    (spelled : List.Forall₂ Endpoint.SameHost endpoints others) (watched : Bool) :
    (∀ (plane : ControlPlane σ) (state : σ),
      (join plane.recorded (.texts endpoints) watched).outcome (state, []) =
        (join plane.recorded (.texts others) watched).outcome (state, [])) ∧
    ∀ (left right : ControlPlane σ), left.Agrees Report.Respelled right → ∀ state : σ,
      (join left.recorded (.texts endpoints) watched).outcome (state, []) =
        (join right.recorded (.texts others) watched).outcome (state, []) := by
  -- In both cases the two joinings are one and the same action.
  refine ⟨fun plane state => ?_, fun left right agrees state => ?_⟩
  · exact congrArg (Action.outcome · (state, [])) (join_eq (.refl _) (.refl _) watched spelled)
  · have recorded := agrees.recorded
    exact congrArg (Action.outcome · (state, []))
      (join_eq recorded (Report.Respelled.blind recorded.note) watched spelled)

/-- A control plane over servers that all report one cluster, and take in every host. -/
def clusterPlane (report : Report) : ControlPlane Unit where
  status _ _ := return report
  add _ _ _ := return ()
  note _ := return ()

/-- A cluster of two, one of whose members is down. -/
def clusterSpelled : Report :=
  ⟨[⟨1, .text "a"⟩], [.text "https://b"]⟩

/-- The same cluster with its members spelled differently. -/
def clusterRespelled : Report :=
  ⟨[⟨1, .text "https://a/"⟩], [.text "b"]⟩

/-- Three endpoints are joined to a cluster of two, and neither they nor its members need be spelled alike. -/
theorem join_respelled_cluster :
    List.Forall₂ Endpoint.SameHost ["https://a", "b/", "c"] ["a//", "https://b", "https://c/"] ∧
    (clusterPlane clusterSpelled).Agrees Report.Respelled (clusterPlane clusterRespelled) ∧
    (join (clusterPlane clusterSpelled).recorded (.texts ["https://a", "b/", "c"]) true).outcome
        ((), []) =
      (join (clusterPlane clusterRespelled).recorded (.texts ["a//", "https://b", "https://c/"])
        true).outcome ((), []) ∧
    ∃ events, (join (clusterPlane clusterSpelled).recorded (.texts ["https://a", "b/", "c"])
        true).outcome ((), []) = (.ok (), (), events) ∧
      Event.calls events = [.status ["a"] true, .add "c" ["a", "b"] true] := by
  -- Each endpoint is paired with another spelling of its host, and so is each host in the report.
  have spelled : List.Forall₂ Endpoint.SameHost ["https://a", "b/", "c"]
      ["a//", "https://b", "https://c/"] :=
    .cons (by rfl) (.cons (by rfl) (.cons (by rfl) .nil))
  have respelled : clusterSpelled.Respelled clusterRespelled :=
    ⟨.cons ⟨rfl, .text (by rfl)⟩ .nil, .cons (.text (by rfl)) .nil⟩
  have agrees : (clusterPlane clusterSpelled).Agrees Report.Respelled (clusterPlane clusterRespelled) :=
    ⟨fun _ _ => ⟨fun _ => .ok respelled, fun _ => rfl⟩, fun _ _ _ => rfl, fun _ => rfl⟩
  exact ⟨spelled, agrees, (join_respelled spelled true).2 _ _ agrees (), _, rfl, rfl⟩

end Join

end KeyCluster

import KeyCluster.Proofs.Cluster.Steps
import KeyCluster.Proofs.Failure.Agreement
import Mathlib.Data.List.Forall2

/-! Endpoints, reports and servers that a joining cannot tell apart. -/

namespace KeyCluster

variable {σ : Type} {like : Report → Report → Prop} {left right : ControlPlane σ}
  {endpoints others : List Text}

/-- Two endpoints spell the same host. -/
def Endpoint.SameHost (endpoint other : Text) : Prop :=
  -- They may differ in the scheme in front and in the slashes at the end.
  host endpoint = host other

/-- Servers that do the same whatever they are asked, but may put their reports in different ways. -/
structure ControlPlane.Agrees (like : Report → Report → Prop) (left right : ControlPlane σ) : Prop where
  /-- Both fail alike to report, or both report, and the reports correspond. -/
  status : ∀ hosts watched, (left.status hosts watched).Agrees like (right.status hosts watched)
  add : ∀ host hosts watched, left.add host hosts watched = right.add host hosts watched
  note : ∀ entry, left.note entry = right.note entry

/-- Servers do the same as they do. -/
theorem ControlPlane.Agrees.refl (plane : ControlPlane σ) : plane.Agrees Eq plane :=
  ⟨fun hosts watched => .refl (fun _ => rfl) (plane.status hosts watched), fun _ _ _ => rfl, fun _ => rfl⟩

namespace Discovery

/-- Discovery makes the same of reports that correspond. -/
structure Blind (like : Report → Report → Prop) (left right : ControlPlane σ) : Prop where
  /-- A server counts as alone in both or in none. -/
  alone : ∀ report other, like report other → report.isStandalone = other.isStandalone
  /-- The members of a cluster are the same in both. -/
  members : ∀ report other, like report other → report.isStandalone = false →
    ∀ host, membersOf left host report = membersOf right host other

/-- It makes the same of the same report. -/
theorem Blind.refl (plane : ControlPlane σ) : Blind Eq plane plane :=
  ⟨fun _ _ same => by rw [same], fun _ _ same _ _ => by rw [same]⟩

/-- Searching finds the same through endpoints of the same hosts. -/
theorem probe_eq (agrees : left.Agrees like right) (blind : Blind like left right) (watched : Bool)
    (spelled : List.Forall₂ Endpoint.SameHost endpoints others) :
    probe left watched (endpoints.map .text) = probe right watched (others.map .text) := by
  -- Induction on the endpoints: the hosts that are asked are the same, and so is what follows each answer.
  induction spelled with
  | nil => rfl
  | @cons endpoint other rest behind same _ ih =>
    have here : Endpoint.host endpoint = Endpoint.host other := same
    rw [probe_cons, probe_cons, here, agrees.note]
    congr 1
    funext _
    -- Where the reports correspond, both servers are alone, or both are part of the same cluster.
    refine (agrees.status _ _).bind_eq fun report seen alike => ?_
    rw [← blind.alone report seen alike]
    by_cases alone : report.isStandalone = true
    · rw [if_pos alone, if_pos alone, ih]
    · rw [if_neg alone, if_neg alone, blind.members report seen alike (by simpa using alone)]

/-- Discovery settles on the same members through endpoints of the same hosts. -/
theorem membership_eq (agrees : left.Agrees like right) (blind : Blind like left right) (watched : Bool)
    (spelled : List.Forall₂ Endpoint.SameHost endpoints others) :
    membership left (.texts endpoints) watched = membership right (.texts others) watched := by
  -- The searches are equal, and where they find nothing, the first endpoints stand for one host.
  have searched := probe_eq agrees blind watched spelled
  cases spelled with
  | nil => rw [membership_nil, membership_nil]
  | @cons endpoint other rest behind same _ =>
    have here : Endpoint.host endpoint = Endpoint.host other := same
    rw [membership_texts, membership_texts, searched, here, agrees.note]

end Discovery

namespace Join

/-- Endpoints of the same hosts are added alike. -/
theorem addAll_eq (agrees : left.Agrees like right) (members : List Text) (watched : Bool)
    (spelled : List.Forall₂ Endpoint.SameHost endpoints others) :
    addAll left members watched (endpoints.map .text) = addAll right members watched (others.map .text) := by
  -- Induction on the endpoints: whether one is passed over depends on its host alone.
  induction spelled with
  | nil => rfl
  | @cons endpoint other rest behind same _ ih =>
    have here : Endpoint.host endpoint = Endpoint.host other := same
    by_cases inside : Endpoint.host endpoint ∈ members
    · rw [addAll_cons_of_mem inside, addAll_cons_of_mem (here ▸ inside), ih]
    · rw [addAll_cons_of_not_mem inside, addAll_cons_of_not_mem (here ▸ inside), ih, here, agrees.note,
        agrees.add]

/-- Endpoints of the same hosts are joined alike. -/
theorem join_eq (agrees : left.Agrees like right) (blind : Discovery.Blind like left right)
    (watched : Bool) (spelled : List.Forall₂ Endpoint.SameHost endpoints others) :
    join left (.texts endpoints) watched = join right (.texts others) watched := by
  -- There are as many endpoints on both sides, so either none is joined or all are.
  rcases Nat.lt_or_ge endpoints.length 2 with few | several
  · rw [join_of_length_lt few, join_of_length_lt (spelled.length_eq ▸ few)]
  · rw [join_of_length_ge several, join_of_length_ge (spelled.length_eq ▸ several),
      Discovery.membership_eq agrees blind watched spelled]
    simp only [addAll_eq agrees _ watched spelled]

end Join

end KeyCluster

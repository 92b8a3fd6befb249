import KeyCluster.Cluster.Join
import KeyCluster.Proofs.Failure.Following

/-! What joining and listing leave behind, as far as it follows from what each step of them does. -/

namespace KeyCluster

variable {σ : Type} {relation : σ → σ → Prop} {plane : ControlPlane σ} {watched : Bool}

/-- Everything that joining does with a control plane follows a relation. -/
structure ControlPlane.Follows (plane : ControlPlane σ) (watched : Bool) (relation : σ → σ → Prop) :
    Prop where
  status : ∀ hosts, (plane.status hosts watched).Follows relation
  add : ∀ host hosts, (plane.add host hosts watched).Follows relation
  note : ∀ entry : Entry, entry.logger = Journal.logger → (plane.note entry).Follows relation

/-- What joining some endpoints to a cluster does with a control plane follows a relation. It is said which
membership the cluster can have. -/
structure ControlPlane.FollowsFor (plane : ControlPlane σ) (watched : Bool) (endpoints : List Value)
    (isMembership : List Text → Prop) (relation : σ → σ → Prop) : Prop where
  status : ∀ endpoint ∈ endpoints, ∀ host, Endpoint.hostOf endpoint = .ok host →
    (plane.status [host] watched).Follows relation
  add : ∀ endpoint ∈ endpoints, ∀ host, Endpoint.hostOf endpoint = .ok host →
    ∀ members, isMembership members → host ∉ members → (plane.add host members watched).Follows relation
  note : ∀ entry : Entry, entry.logger = Journal.logger → (plane.note entry).Follows relation

namespace ControlPlane

variable {isMembership : List Text → Prop}

/-- What follows a relation for all endpoints and memberships does for some. -/
theorem Follows.restrict (follows : plane.Follows watched relation) (endpoints : List Value) :
    plane.FollowsFor watched endpoints isMembership relation where
  status _ _ host _ := follows.status [host]
  add _ _ host _ members _ _ := follows.add host members
  note := follows.note

/-- What follows a relation for some endpoints does without the first one. -/
theorem FollowsFor.tail {endpoint : Value} {rest : List Value}
    (follows : plane.FollowsFor watched (endpoint :: rest) isMembership relation) :
    plane.FollowsFor watched rest isMembership relation where
  status other inside := follows.status other (List.mem_cons_of_mem _ inside)
  add other inside := follows.add other (List.mem_cons_of_mem _ inside)
  note := follows.note

end ControlPlane

variable [IsPreorder σ relation] {endpoints : List Value} {isMembership : List Text → Prop}

namespace Discovery

/-- Looking at the members in a report takes a message. -/
theorem follows_membersOf (follows : plane.FollowsFor watched endpoints isMembership relation) (host : Text)
    (report : Report) : (membersOf plane host report).Follows relation := by
  refine (Action.Follows.ofValue _).bind fun names => ?_
  dsimp only
  split
  · exact (follows.note _ rfl).bind fun _ => .pure none
  · exact (follows.note _ rfl).bind fun _ => .pure _

/-- Probing takes a message and a question for each endpoint. -/
theorem follows_probe (follows : plane.FollowsFor watched endpoints isMembership relation) :
    (probe plane watched endpoints).Follows relation := by
  induction endpoints with
  | nil => exact .pure none
  | cons endpoint rest ih =>
    refine Action.Follows.ofValue_bind fun host named => ?_
    refine (follows.note _ rfl).bind fun _ => ?_
    refine (follows.status endpoint List.mem_cons_self host named).bind fun report => ?_
    -- The report decides whether the search goes on.
    split
    · exact ih follows.tail
    · exact follows_membersOf follows host report

/-- Discovery takes one more message where nothing is found. -/
theorem follows_membership {endpoints : Value}
    (follows : ∀ items, endpoints.parts = .ok items → plane.FollowsFor watched items isMembership relation) :
    (membership plane endpoints watched).Follows relation := by
  refine Action.Follows.ofValue_bind fun items listed => ?_
  have follows := follows items listed
  -- What was found needs no more messages.
  refine (follows_probe follows).bind fun found => ?_
  cases found with
  | some members => exact .pure members
  | none => exact (Action.Follows.ofValue _).bind fun seed => (follows.note _ rfl).bind fun _ => .pure [seed]

end Discovery

namespace Join

/-- Adding takes a message and a request for each outsider. -/
theorem follows_addAll (follows : plane.FollowsFor watched endpoints isMembership relation)
    {members : List Text} (isMembers : isMembership members) :
    (addAll plane members watched endpoints).Follows relation := by
  induction endpoints with
  | nil => exact .pure ()
  | cons endpoint rest ih =>
    -- Each endpoint is passed over, or costs a message and a request, before the others are dealt with.
    refine Action.Follows.ofValue_bind fun host named => ?_
    split
    · exact ih follows.tail
    · rename_i outside
      have fresh : host ∉ members := fun inside => outside (List.contains_iff_mem.mpr inside)
      refine (follows.note _ rfl).bind fun _ => ?_
      refine (follows.add endpoint List.mem_cons_self host named members isMembers fresh).bind fun _ => ?_
      exact ih follows.tail

/-- Joining is discovery and adding, if there is anything to join. -/
theorem follows_join (follows : plane.Follows watched relation) (endpoints : Value) :
    (join plane endpoints watched).Follows relation := by
  -- Here it does not matter which members are found.
  have restricted (items : List Value) : plane.FollowsFor watched items (fun _ => True) relation :=
    follows.restrict items
  refine (Action.Follows.ofValue _).bind fun size => ?_
  split
  · exact .pure ()
  · refine (Discovery.follows_membership fun items _ => restricted items).bind fun members => ?_
    exact (Action.Follows.ofValue _).bind fun items => follows_addAll (restricted items) trivial

end Join

/-- Listing takes a question and a line for each endpoint. -/
theorem Listing.follows_list {write : Text → Action σ Unit}
    (asks : ∀ hosts, (plane.status hosts watched).Follows relation)
    (writes : ∀ line, (write line).Follows relation) (endpoints : List Value) :
    (list plane write watched endpoints).Follows relation := by
  induction endpoints with
  | nil => exact .pure ()
  | cons endpoint rest ih =>
    refine (Action.Follows.ofValue _).bind fun host => (asks _).bind fun report => ?_
    exact (Action.Follows.ofValue _).bind fun line => (writes line).bind fun _ => ih

end KeyCluster

import KeyCluster.Cluster.Discovery
import KeyCluster.Proofs.Text.Order
import Mathlib.Data.List.Sort

/-! Sets of hosts hold what was put into them, once and in order. -/

namespace KeyCluster.Members

/-- Inserting a host adds it and nothing else. -/
@[simp] theorem mem_insert {host other : Text} {members : List Text} :
    other ∈ insert host members ↔ other = host ∨ other ∈ members := by
  -- The walk ends before the first larger member, or at the host itself.
  induction members with
  | nil => simp [insert]
  | cons member rest ih =>
    simp only [insert]
    split
    · simp
    · split
      · rename_i same
        have same : host = member := by simpa using same
        simp [same]
      · simp only [List.mem_cons, ih]
        exact or_left_comm

/-- The set of some hosts holds exactly them. -/
@[simp] theorem mem_ofList {host : Text} {hosts : List Text} :
    host ∈ ofList hosts ↔ host ∈ hosts := by
  -- Each host is inserted into the set of those behind it.
  induction hosts with
  | nil => simp [ofList]
  | cons head rest ih =>
    have step : ofList (head :: rest) = insert head (ofList rest) := rfl
    simp [step, ih]

/-- Inserting a host keeps a set in increasing order. -/
theorem insert_increasing {host : Text} {members : List Text}
    (increasing : members.Pairwise (· < ·)) : (insert host members).Pairwise (· < ·) := by
  -- At each member the host goes before it, is it already, or goes further back.
  induction members with
  | nil => simp [insert]
  | cons member rest ih =>
    obtain ⟨below, tail⟩ := List.pairwise_cons.mp increasing
    simp only [insert]
    split
    · -- The host comes first, so it is below the member and all that follow.
      rename_i less
      refine List.pairwise_cons.mpr ⟨fun other inside => ?_, increasing⟩
      rcases List.mem_cons.mp inside with same | inside
      · exact same ▸ less
      · exact List.lt_trans less (below other inside)
    · split
      · -- The host is there already, and nothing is inserted.
        exact increasing
      · -- The host goes further back, and it is above the member that stays first.
        rename_i notLess differ
        have differ : host ≠ member := by simpa using differ
        refine List.pairwise_cons.mpr ⟨fun other inside => ?_, ih tail⟩
        rcases mem_insert.mp inside with same | inside
        · exact same ▸ Text.lt_of_not_lt_of_ne notLess differ
        · exact below other inside

/-- The set of some hosts lists them in increasing order, each once. -/
theorem ofList_increasing (hosts : List Text) : (ofList hosts).Pairwise (· < ·) := by
  -- Each host is inserted into the set of those behind it.
  induction hosts with
  | nil => exact List.Pairwise.nil
  | cons host rest ih => exact insert_increasing ih

/-- Lists that hold the same hosts are one set, in whatever order and however often they hold them. -/
theorem ofList_congr {hosts others : List Text} (same : ∀ host, host ∈ hosts ↔ host ∈ others) :
    ofList hosts = ofList others := by
  -- In increasing order the same members can stand in one way only.
  refine (ofList_increasing hosts).eq_of_mem_iff (ofList_increasing others) fun host => ?_
  rw [mem_ofList, mem_ofList, same]

end KeyCluster.Members

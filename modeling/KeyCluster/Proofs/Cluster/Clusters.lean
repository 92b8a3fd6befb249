import KeyCluster.Text.Basic
import Mathlib.Data.Setoid.Basic

/-! Hosts sorted into clusters, which can merge but not split. -/

namespace KeyCluster

/-- Which hosts are in one cluster. Clusters that merged are above the ones they merged from. -/
abbrev Clusters := Setoid Text

namespace Clusters

/-- Every host is in a cluster of its own. -/
@[reducible] def apart : Clusters where
  r first second := first = second
  iseqv := eq_equivalence

/-- Some hosts are all in one cluster. -/
def Together (clusters : Clusters) (hosts : List Text) : Prop :=
  -- Order and repetition of the hosts do not matter.
  ∀ first ∈ hosts, ∀ second ∈ hosts, clusters first second

/-- A host is in the cluster of one of some hosts. -/
def Reaches (clusters : Clusters) (hosts : List Text) (host : Text) : Prop :=
  ∃ other ∈ hosts, clusters host other

/-- The clusters after those of some hosts merged into one. -/
@[reducible] def merge (clusters : Clusters) (hosts : List Text) : Clusters where
  -- Hosts are together if they were before, or if both belong to what merged.
  r first second := clusters first second ∨ clusters.Reaches hosts first ∧ clusters.Reaches hosts second
  iseqv :=
    { refl := fun host => .inl (clusters.refl' host)
      symm := by
        rintro _ _ (same | ⟨left, right⟩)
        · exact .inl (clusters.symm' same)
        · exact .inr ⟨right, left⟩
      trans := by
        rintro _ _ _ (same | ⟨left, other, inside, near⟩) (next | ⟨⟨bridge, crossed, met⟩, right⟩)
        -- A host that was with one that merged belongs to what merged, too.
        · exact .inl (clusters.trans' same next)
        · exact .inr ⟨⟨bridge, crossed, clusters.trans' same met⟩, right⟩
        · exact .inr ⟨left, other, inside, clusters.trans' (clusters.symm' next) near⟩
        · exact .inr ⟨left, right⟩ }

variable {clusters later : Clusters} {hosts : List Text}

/-- Merging splits no cluster. -/
theorem le_merge : clusters ≤ clusters.merge hosts :=
  fun _ _ same => .inl same

/-- Hosts whose clusters merged are together. -/
theorem together_merge : (clusters.merge hosts).Together hosts :=
  fun first firstIn second secondIn =>
    .inr ⟨⟨first, firstIn, clusters.refl' first⟩, second, secondIn, clusters.refl' second⟩

/-- Hosts that are together stay together while clusters only merge. -/
theorem Together.mono (together : clusters.Together hosts) (grown : clusters ≤ later) :
    later.Together hosts :=
  fun first firstIn second secondIn => grown (together first firstIn second secondIn)

/-- Hosts that are each with the same one are together. -/
theorem together_of_near (hub : Text) (near : ∀ host ∈ hosts, clusters host hub) :
    clusters.Together hosts :=
  fun first firstIn second secondIn =>
    clusters.trans' (near first firstIn) (clusters.symm' (near second secondIn))

/-- Of hosts that are together, any are. -/
theorem Together.subset {fewer : List Text} (together : clusters.Together hosts)
    (inside : fewer ⊆ hosts) : clusters.Together fewer :=
  fun first firstIn second secondIn => together first (inside firstIn) second (inside secondIn)

/-- Merging goes no further than any clusters that hold the old ones and the hosts together. -/
theorem merge_le (grown : clusters ≤ later) (together : later.Together hosts) :
    clusters.merge hosts ≤ later := by
  rintro first second (same | ⟨⟨left, leftIn, near⟩, right, rightIn, met⟩)
  · exact grown same
  · -- Both are in the cluster of one of the hosts, and these are together.
    exact later.trans' (grown near)
      (later.trans' (together left leftIn right rightIn) (later.symm' (grown met)))

/-- A host that merged with some members, and others that merge with one of them, merge all at once. -/
theorem merge_merge {members : List Text} {seed host : Text} (together : clusters.Together members)
    (isMember : seed ∈ members) :
    (clusters.merge (host :: members)).merge (seed :: hosts) =
      clusters.merge (seed :: host :: hosts) := by
  -- Everything that merges is with the seed, on both sides.
  apply le_antisymm
  · refine merge_le (merge_le le_merge (together_of_near seed ?_)) (together_merge.subset ?_)
    · -- The host merges with the seed at once, and the members were with it before.
      intro other inside
      rcases List.mem_cons.mp inside with rfl | inside
      · exact together_merge other (by simp) seed (by simp)
      · exact le_merge (together other inside seed isMember)
    · simp
  · refine merge_le (le_merge.trans le_merge) (together_of_near seed ?_)
    -- The host came to the seed in the first merging, and the others do in the second.
    intro other inside
    rcases List.mem_cons.mp inside with rfl | inside
    · exact Setoid.refl' _ _
    rcases List.mem_cons.mp inside with rfl | inside
    · exact le_merge (together_merge other (by simp) seed (by simp [isMember]))
    · exact together_merge other (by simp [inside]) seed (by simp)

/-- Merging hosts that are together changes nothing. -/
theorem merge_of_together (together : clusters.Together hosts) : clusters.merge hosts = clusters :=
  -- The clusters as they are hold the hosts together already.
  le_antisymm (merge_le le_rfl together) le_merge

/-- A host that is among those that merge need not be named again. -/
theorem merge_cons_of_mem {host : Text} (inside : host ∈ hosts) :
    clusters.merge (host :: hosts) = clusters.merge hosts := by
  -- The same hosts are named on both sides.
  have same : host :: hosts ⊆ hosts := List.cons_subset.mpr ⟨inside, List.Subset.refl _⟩
  apply le_antisymm
  · exact merge_le le_merge (together_merge.subset same)
  · exact merge_le le_merge (together_merge.subset (List.subset_cons_self _ _))

end Clusters

end KeyCluster

import KeyCluster.Proofs.Failure.Result
import Mathlib.Data.List.Forall2

/-! Lists whose items are related one by one. -/

namespace KeyCluster

/-- Walking a list without a fault treats every item. -/
theorem forall₂_of_mapM_ok {α β ε : Type} {f : α → Except ε β} {items : List α} {results : List β}
    (walked : items.mapM f = .ok results) :
    List.Forall₂ (fun item result => f item = .ok result) items results := by
  -- A fault at any item would have ended the walk.
  induction items generalizing results with
  | nil =>
    cases walked
    exact .nil
  | cons item rest ih =>
    rw [List.mapM_cons] at walked
    obtain ⟨result, here, walked⟩ := Result.bind_eq_ok.mp walked
    obtain ⟨others, behind, same⟩ := Result.bind_eq_ok.mp walked
    cases same
    exact .cons here (ih behind)

/-- Walks that treat the items of two lists alike come to the same. -/
theorem mapM_congr {α β γ ε : Type} {f : α → Except ε γ} {g : β → Except ε γ} {items : List α}
    {others : List β} (alike : List.Forall₂ (fun item other => f item = g other) items others) :
    items.mapM f = others.mapM g := by
  induction alike with
  | nil => rfl
  | cons here _ ih => rw [List.mapM_cons, List.mapM_cons, here, ih]

/-- Every item on the right is related to one on the left. -/
theorem exists_left_of_mem {α β : Type} {R : α → β → Prop} {items : List α} {others : List β}
    (related : List.Forall₂ R items others) {other : β} (inside : other ∈ others) :
    ∃ item ∈ items, R item other := by
  -- The item stands at the same place as the one that it is related to.
  induction related with
  | nil => simp at inside
  | cons here _ ih =>
    rcases List.mem_cons.mp inside with rfl | inside
    · exact ⟨_, by simp, here⟩
    · obtain ⟨item, isItem, there⟩ := ih inside
      exact ⟨item, by simp [isItem], there⟩

end KeyCluster

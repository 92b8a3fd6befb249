import KeyCluster.Proofs.Failure.Action
import Mathlib.Order.Defs.Unbundled

/-! What holds between the states before and after an action, whether it succeeds or fails. -/

namespace KeyCluster.Action

variable {σ α β : Type}

/-- Whatever comes of an action, it leads from each state to a related one. -/
def Follows (relation : σ → σ → Prop) (action : Action σ α) : Prop :=
  -- Failures count as well, for they keep the changes that were made before them.
  ∀ state, relation state (action.outcome state).2

namespace Follows

variable {relation : σ → σ → Prop} {action : Action σ α}

/-- What an action comes to is related to where it begins. -/
theorem after {state after : σ} {result : Except Failure α} (follows : action.Follows relation)
    (ran : action.outcome state = (result, after)) : relation state after := by
  have related := follows state
  rwa [ran] at related

/-- An action that is known by what it comes to follows what holds of that. -/
theorem of_outcome (related : ∀ {state after : σ} {result : Except Failure α},
    action.outcome state = (result, after) → relation state after) : action.Follows relation :=
  fun _ => related rfl

variable [IsPreorder σ relation]

/-- Returning follows every relation that lets things stay as they are. -/
theorem pure (a : α) : (Pure.pure a : Action σ α).Follows relation :=
  fun state => refl_of relation state

/-- So does failing at once. -/
theorem throw (failure : Failure) : (MonadExcept.throw failure : Action σ α).Follows relation :=
  fun state => refl_of relation state

/-- So does reading the state. -/
theorem get : (MonadState.get : Action σ σ).Follows relation :=
  fun state => refl_of relation state

/-- So does using a value. -/
theorem ofValue (result : Except ValueFault α) : (Action.ofValue result : Action σ α).Follows relation := by
  intro state
  -- A fault in the value is a failure, but the state stays.
  rw [outcome_ofValue]
  exact refl_of relation state

/-- Two steps follow a relation when each of them does. -/
theorem bind {next : α → Action σ β} (first : action.Follows relation)
    (goesOn : ∀ a, (next a).Follows relation) : (action >>= next).Follows relation := by
  intro state
  -- If the first step fails, its state is the last one.
  rcases ran : action.outcome state with ⟨failure | a, middle⟩
  · rw [outcome_bind_of_error ran]
    exact first.after ran
  · rw [outcome_bind_of_ok ran]
    exact trans_of relation (first.after ran) (goesOn a middle)

/-- A step behind a value has to follow it only where the value is there. -/
theorem ofValue_bind {result : Except ValueFault α} {next : α → Action σ β}
    (goesOn : ∀ a, result = .ok a → (next a).Follows relation) :
    (Action.ofValue result >>= next).Follows relation := by
  -- A fault leaves the state as it is, which every reflexive relation allows.
  intro state
  cases result with
  | error fault =>
    rw [outcome_bind_of_error (outcome_ofValue _ state)]
    exact refl_of relation state
  | ok a =>
    rw [outcome_bind_of_ok (outcome_ofValue _ state)]
    exact goesOn a rfl state

end Follows

end KeyCluster.Action

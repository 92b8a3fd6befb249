import KeyCluster.Failure.Action
import KeyCluster.Proofs.Failure.Result

/-! Runs of actions, opened one step at a time. -/

namespace KeyCluster.Action

variable {σ α β : Type}

/-- An action that only returns leaves the state as it is. -/
@[simp] theorem outcome_pure (a : α) (state : σ) :
    (pure a : Action σ α).outcome state = (.ok a, state) :=
  rfl

/-- An action that fails at once leaves the state as it is. -/
@[simp] theorem outcome_throw (failure : Failure) (state : σ) :
    (throw failure : Action σ α).outcome state = (.error failure, state) :=
  rfl

/-- Reading the state leaves it as it is. -/
@[simp] theorem outcome_get (state : σ) : (get : Action σ σ).outcome state = (.ok state, state) :=
  rfl

/-- Using a value leaves the state as it is. -/
@[simp] theorem outcome_ofValue (result : Except ValueFault α) (state : σ) :
    (ofValue result : Action σ α).outcome state = (result.mapError .value, state) := by
  cases result <;> rfl

/-- Using a value succeeds when there is no fault in it. -/
theorem outcome_ofValue_eq_ok {result : Except ValueFault α} {state after : σ} {a : α} :
    (ofValue result : Action σ α).outcome state = (.ok a, after) ↔
      result = .ok a ∧ state = after := by
  rw [outcome_ofValue, Prod.mk.injEq, Result.mapError_eq_ok]

/-- Going into a log leaves the state as it is. -/
@[simp] theorem outcome_ofLog (result : Except LogFault α) (state : σ) :
    (ofLog result : Action σ α).outcome state = (result.mapError .log, state) := by
  cases result <;> rfl

/-- Going into a log succeeds when there is no fault in it. -/
theorem outcome_ofLog_eq_ok {result : Except LogFault α} {state after : σ} {a : α} :
    (ofLog result : Action σ α).outcome state = (.ok a, after) ↔ result = .ok a ∧ state = after := by
  rw [outcome_ofLog, Prod.mk.injEq, Result.mapError_eq_ok]

/-- After a step that succeeds, the rest runs from the state that the step leaves. -/
theorem outcome_bind_of_ok {action : Action σ α} {next : α → Action σ β} {state after : σ} {a : α}
    (done : action.outcome state = (.ok a, after)) :
    (action >>= next).outcome state = (next a).outcome after := by
  -- The rest is chosen by what the step returns, and the state is threaded beside it.
  change ExceptT.bindCont next (action.outcome state).1 (action.outcome state).2 = _
  rw [done]
  rfl

/-- After a step that fails, nothing more is done. -/
theorem outcome_bind_of_error {action : Action σ α} {next : α → Action σ β} {state after : σ}
    {failure : Failure} (failed : action.outcome state = (.error failure, after)) :
    (action >>= next).outcome state = (.error failure, after) := by
  -- A failure is passed on in place of what the rest would return.
  change ExceptT.bindCont next (action.outcome state).1 (action.outcome state).2 = _
  rw [failed]
  rfl

/-- Two steps succeed when the first does, and the second does from where it ends. -/
theorem outcome_bind_eq_ok {action : Action σ α} {next : α → Action σ β} {state after : σ} {b : β} :
    (action >>= next).outcome state = (.ok b, after) ↔
      ∃ a middle, action.outcome state = (.ok a, middle) ∧
        (next a).outcome middle = (.ok b, after) := by
  -- If the first step fails, so do both, and there is nothing on either side.
  rcases ran : action.outcome state with ⟨failure | a, middle⟩
  · simp [outcome_bind_of_error ran]
  · rw [outcome_bind_of_ok ran]
    constructor
    · intro rest
      exact ⟨a, middle, rfl, rest⟩
    · rintro ⟨_, _, same, rest⟩
      cases same
      exact rest

/-- Two steps fail when the first does, or when the second does from where the first ends. -/
theorem outcome_bind_eq_error {action : Action σ α} {next : α → Action σ β} {state after : σ}
    {failure : Failure} :
    (action >>= next).outcome state = (.error failure, after) ↔
      action.outcome state = (.error failure, after) ∨ ∃ a middle,
        action.outcome state = (.ok a, middle) ∧ (next a).outcome middle = (.error failure, after) := by
  -- What the first step does leaves only one of the sides to look at.
  rcases ran : action.outcome state with ⟨failed | a, middle⟩
  · simp [outcome_bind_of_error ran]
  · rw [outcome_bind_of_ok ran]
    constructor
    · intro rest
      exact .inr ⟨a, middle, rfl, rest⟩
    · rintro (same | ⟨_, _, same, rest⟩)
      · cases same
      · cases same
        exact rest

/-- Where a result is only returned behind a step, nothing but the step fails. -/
theorem outcome_bind_pure_eq_error {action : Action σ α} {f : α → β} {state after : σ}
    {failure : Failure} :
    (action >>= fun a => pure (f a)).outcome state = (.error failure, after) ↔
      action.outcome state = (.error failure, after) := by
  rw [outcome_bind_eq_error]
  constructor
  · -- Returning a result cannot fail.
    rintro (failed | ⟨_, _, _, returned⟩)
    · exact failed
    · cases returned
  · exact .inl

/-- Dropping the result of an action that succeeds. -/
theorem outcome_discard_eq_ok {action : Action σ α} {state after : σ} {done : PUnit} :
    (discard action).outcome state = (.ok done, after) ↔
      ∃ a, action.outcome state = (.ok a, after) := by
  -- Dropping is a step that returns nothing, so success and state are those of the action.
  change (action >>= fun _ => pure PUnit.unit).outcome state = _ ↔ _
  rw [outcome_bind_eq_ok]
  simp

end KeyCluster.Action

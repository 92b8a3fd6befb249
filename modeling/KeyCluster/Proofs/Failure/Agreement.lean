import KeyCluster.Proofs.Failure.Action

/-! Actions that do the same, and whose results differ at most in a known way. -/

namespace KeyCluster

variable {σ α β γ ε : Type}

/-- Two results are one failure, or they are related. -/
inductive Result.Matches (related : α → β → Prop) : Except ε α → Except ε β → Prop
  | ok {a : α} {b : β} (here : related a b) : Matches related (.ok a) (.ok b)
  | error (e : ε) : Matches related (.error e) (.error e)

namespace Action

/-- Actions are the same when they come to the same from every state. -/
theorem ext {left right : Action σ α} (same : ∀ state, left.outcome state = right.outcome state) :
    left = right :=
  funext same

/-- Two actions lead from each state to the same one, where they fail alike or have related results. -/
structure Agrees (related : α → β → Prop) (left : Action σ α) (right : Action σ β) : Prop where
  result : ∀ state, Result.Matches related (left.outcome state).1 (right.outcome state).1
  state : ∀ state, (left.outcome state).2 = (right.outcome state).2

namespace Agrees

variable {related : α → β → Prop} {left : Action σ α} {right : Action σ β}

/-- An action agrees with itself if all results are related to themselves. -/
theorem refl {related : α → α → Prop} (same : ∀ a, related a a) (action : Action σ α) :
    action.Agrees related action where
  result state := by
    cases (action.outcome state).1 with
    | ok a => exact .ok (same a)
    | error failure => exact .error failure
  state _ := rfl

/-- Actions that agree can be told apart only by what follows them. -/
theorem bind_eq {next : α → Action σ γ} {other : β → Action σ γ} (agrees : left.Agrees related right)
    (goesOn : ∀ a b, related a b → next a = other b) : left >>= next = right >>= other := by
  refine Action.ext fun state => ?_
  have results := agrees.result state
  have states := agrees.state state
  rcases ran : left.outcome state with ⟨first, after⟩
  rcases ranOther : right.outcome state with ⟨second, afterOther⟩
  rw [ran, ranOther] at results states
  obtain rfl : after = afterOther := states
  -- Either both fail, or what follows is the same as well.
  cases results with
  | ok here => rw [outcome_bind_of_ok ran, outcome_bind_of_ok ranOther, goesOn _ _ here]
  | error failure => rw [outcome_bind_of_error ran, outcome_bind_of_error ranOther]

end Agrees

end Action

end KeyCluster

import KeyCluster.Failure.Basic

/-! What a program does step by step: changing a state, and perhaps failing. -/

namespace KeyCluster

/-- What changes a state and may fail. A failure keeps the changes that were made before it. -/
abbrev Action (σ : Type) : Type → Type :=
  ExceptT Failure (StateM σ)

namespace Action

/-- Runs an action. -/
def outcome {σ α : Type} (action : Action σ α) (state : σ) : Except Failure α × σ :=
  action.run state

/-- An action that uses a value. -/
def ofValue {σ α : Type} (result : Except ValueFault α) : Action σ α :=
  match result with
  | .ok a => return a
  | .error fault => throw (.value fault)

/-- An action that goes into a log. -/
def ofLog {σ α : Type} (result : Except LogFault α) : Action σ α :=
  match result with
  | .ok a => return a
  | .error fault => throw (.log fault)

end Action

end KeyCluster

import KeyCluster.Proofs.Cluster.Dialogue

/-! Recording what happens does not change what happens. -/

namespace KeyCluster

variable {σ α β : Type}

/-- An action with a list of events beside it does to the state what another one does alone, returns or
fails alike, and only adds to the events. -/
def Observes (recording : Action (σ × List Event) α) (action : Action σ α) : Prop :=
  -- Events so far are never looked at, so they stand in front of whatever is added.
  ∀ state events, ∃ more, recording.outcome (state, events) =
    ((action.outcome state).1, (action.outcome state).2, events ++ more)

namespace Observes

/-- Returning leaves nothing to record. -/
theorem pure (a : α) : Observes (Pure.pure a : Action (σ × List Event) α) (Pure.pure a) :=
  fun _ _ => ⟨[], by simp⟩

/-- Steps that are observed one by one are observed in sequence. -/
theorem bind {recording : Action (σ × List Event) α} {action : Action σ α}
    {recordingNext : α → Action (σ × List Event) β} {next : α → Action σ β}
    (first : Observes recording action) (second : ∀ a, Observes (recordingNext a) (next a)) :
    Observes (recording >>= recordingNext) (action >>= next) := by
  intro state events
  obtain ⟨more, ran⟩ := first state events
  rcases outcome : action.outcome state with ⟨failure | a, after⟩
  -- A failure ends both sequences at the same place.
  · rw [outcome] at ran
    exact ⟨more, by rw [Action.outcome_bind_of_error ran, Action.outcome_bind_of_error outcome]⟩
  · rw [outcome] at ran
    obtain ⟨further, ranFurther⟩ := second a after (events ++ more)
    refine ⟨more ++ further, ?_⟩
    rw [Action.outcome_bind_of_ok ran, Action.outcome_bind_of_ok outcome, ranFurther,
      List.append_assoc]

/-- Noting an event before an action is observing it. -/
theorem recorded (event : Event) (action : Action σ α) :
    Observes (ControlPlane.record event >>= fun _ => ControlPlane.beside action) action :=
  -- The event is the one thing that is added.
  fun _ _ => ⟨[event], rfl⟩

/-- A dialogue is observed by recording it. -/
theorem perform (plane : ControlPlane σ) (dialogue : Dialogue α) :
    Observes (dialogue.perform plane.recorded) (dialogue.perform plane) := by
  -- Each thing that is said is recorded before it is said, and the answers are the same.
  induction dialogue with
  | ends result =>
    cases result with
    | ok a => exact pure a
    | error failure => exact fun _ _ => ⟨[], by simp [Dialogue.perform]⟩
  | tells entry next ih => exact (recorded _ _).bind fun _ => ih
  | asks call next ih =>
    cases call with
    | status hosts watched => exact (recorded _ _).bind ih
    | add host hosts watched => exact (recorded _ _).bind ih

end Observes

/-- Joining is observed by recording it. -/
theorem Join.observes_join (plane : ControlPlane σ) (watched : Bool) (endpoints : Value) :
    Observes (join plane.recorded endpoints watched) (join plane endpoints watched) := by
  -- It is one dialogue with both control planes.
  obtain ⟨dialogue, same⟩ := exists_dialogue watched endpoints
  rw [same plane.recorded, same plane]
  exact Observes.perform plane dialogue

end KeyCluster

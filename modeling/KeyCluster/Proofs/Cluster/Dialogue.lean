import KeyCluster.Cluster.Join
import KeyCluster.Proofs.Failure.Action
import Mathlib.Tactic.Choose

/-! Joining is a dialogue with servers: what it does next hangs on the answers so far and on nothing else. -/

namespace KeyCluster

variable {σ α β : Type}

/-- What a call is answered with, unless it fails. -/
abbrev Call.Answer : Call → Type
  | .status _ _ => Report
  | .add _ _ _ => Unit

/-- What a program says in turn, where the answer to each call decides how it goes on. -/
inductive Dialogue (α : Type) where
  | ends (result : Except Failure α)
  | tells (entry : Entry) (next : Dialogue α)
  | asks (call : Call) (next : call.Answer → Dialogue α)

/-- Makes a call. -/
def ControlPlane.make (plane : ControlPlane σ) : (call : Call) → Action σ call.Answer
  | .status hosts watched => plane.status hosts watched
  | .add host hosts watched => plane.add host hosts watched

namespace Dialogue

/-- Holds a dialogue with a control plane. The first call that fails ends it. -/
def perform (plane : ControlPlane σ) : Dialogue α → Action σ α
  | ends (.ok a) => pure a
  | ends (.error failure) => throw failure
  | tells entry next => do
    plane.note entry
    next.perform plane
  | asks call next => do
    let answer ← plane.make call
    (next answer).perform plane

/-- One dialogue after another, which hangs on the result of the first. -/
def bind (dialogue : Dialogue α) (next : α → Dialogue β) : Dialogue β :=
  match dialogue with
  | ends (.ok a) => next a
  | ends (.error failure) => ends (.error failure)
  | tells entry rest => tells entry (rest.bind next)
  | asks call rest => asks call fun answer => (rest answer).bind next

/-- Holding one dialogue after another is holding both in turn. -/
theorem perform_bind (plane : ControlPlane σ) (dialogue : Dialogue α) (next : α → Dialogue β) :
    (dialogue.bind next).perform plane =
      dialogue.perform plane >>= fun a => (next a).perform plane := by
  -- What comes later is put behind the last thing that is said.
  induction dialogue with
  | ends result => cases result <;> rfl
  | tells entry rest ih => simp only [bind, perform, ih, bind_assoc]
  | asks call rest ih => simp only [bind, perform, ih, bind_assoc]

end Dialogue

/-- An action on every control plane is one and the same dialogue with each of them. -/
def IsDialogue (action : ∀ {σ : Type}, ControlPlane σ → Action σ α) : Prop :=
  ∃ dialogue : Dialogue α, ∀ {σ : Type} (plane : ControlPlane σ), action plane = dialogue.perform plane

namespace IsDialogue

/-- Using a value says nothing. -/
theorem ofValue (result : Except ValueFault α) : IsDialogue fun _ => Action.ofValue result :=
  ⟨.ends (result.mapError .value), fun _ => by cases result <;> rfl⟩

/-- Returning says nothing. -/
theorem pure (a : α) : IsDialogue fun _ => (Pure.pure a : Action _ α) :=
  ofValue (.ok a)

/-- Telling the log something is a dialogue. -/
theorem note (entry : Entry) : IsDialogue fun plane => plane.note entry :=
  ⟨.tells entry (.ends (.ok ())), fun _ => (bind_pure _).symm⟩

/-- A call is a dialogue. -/
theorem make (call : Call) : IsDialogue fun plane => plane.make call :=
  ⟨.asks call fun answer => .ends (.ok answer), fun _ => (bind_pure _).symm⟩

/-- Dialogues in sequence are a dialogue. -/
theorem bind {first : ∀ {σ : Type}, ControlPlane σ → Action σ α}
    {next : ∀ {σ : Type}, ControlPlane σ → α → Action σ β} (begun : IsDialogue first)
    (goesOn : ∀ a, IsDialogue fun plane => next plane a) :
    IsDialogue fun plane => first plane >>= next plane := by
  -- For every result of the first dialogue there is one that follows it.
  obtain ⟨dialogue, same⟩ := begun
  choose following sameNext using goesOn
  refine ⟨dialogue.bind following, fun plane => ?_⟩
  rw [Dialogue.perform_bind, ← same plane]
  exact congrArg _ (funext fun a => sameNext a plane)

/-- A choice between dialogues is a dialogue. -/
theorem ite {chosen : Prop} [Decidable chosen] {yes no : ∀ {σ : Type}, ControlPlane σ → Action σ α}
    (first : IsDialogue yes) (second : IsDialogue no) :
    IsDialogue fun plane => if chosen then yes plane else no plane := by
  split
  · exact first
  · exact second

end IsDialogue

variable (watched : Bool)

namespace Discovery

/-- Looking at the members in a report is a dialogue. -/
theorem isDialogue_membersOf (host : Text) (report : Report) :
    IsDialogue fun plane => membersOf plane host report := by
  -- Members are told to the log, or that there are none.
  refine (IsDialogue.ofValue report.hosts).bind fun names => IsDialogue.ite ?_ ?_
  · exact (IsDialogue.note _).bind fun _ => .pure none
  · exact (IsDialogue.note _).bind fun _ => .pure _

/-- Probing is a dialogue. -/
theorem isDialogue_probe (endpoints : List Value) :
    IsDialogue fun plane => probe plane watched endpoints := by
  -- Each endpoint is asked in turn, and its report decides whether the others are.
  induction endpoints with
  | nil => exact .pure none
  | cons endpoint rest ih =>
    refine (IsDialogue.ofValue (Endpoint.hostOf endpoint)).bind fun host => ?_
    refine (IsDialogue.note _).bind fun _ => (IsDialogue.make (.status [host] watched)).bind fun report => ?_
    exact IsDialogue.ite ih (isDialogue_membersOf host report)

/-- Discovery is a dialogue. -/
theorem isDialogue_membership (endpoints : Value) :
    IsDialogue fun plane => membership plane endpoints watched := by
  refine (IsDialogue.ofValue endpoints.parts).bind fun items => ?_
  refine (isDialogue_probe watched items).bind fun found => ?_
  -- What was found decides whether the first endpoint is elected.
  cases found with
  | some members => exact .pure members
  | none =>
    refine (IsDialogue.ofValue _).bind fun seed => ?_
    exact (IsDialogue.note _).bind fun _ => .pure [seed]

end Discovery

namespace Join

/-- Adding is a dialogue. -/
theorem isDialogue_addAll (members : List Text) (endpoints : List Value) :
    IsDialogue fun plane => addAll plane members watched endpoints := by
  -- Members are passed over without a word.
  induction endpoints with
  | nil => exact .pure ()
  | cons endpoint rest ih =>
    refine (IsDialogue.ofValue (Endpoint.hostOf endpoint)).bind fun host => IsDialogue.ite ih ?_
    exact (IsDialogue.note _).bind fun _ => (IsDialogue.make (.add host members watched)).bind fun _ => ih

/-- Joining is one dialogue, whoever it is held with. -/
theorem exists_dialogue (endpoints : Value) : ∃ dialogue : Dialogue Unit,
    ∀ {σ : Type} (plane : ControlPlane σ), join plane endpoints watched = dialogue.perform plane := by
  refine (IsDialogue.ofValue endpoints.size).bind fun size => IsDialogue.ite (.pure ()) ?_
  refine (Discovery.isDialogue_membership watched endpoints).bind fun members => ?_
  exact (IsDialogue.ofValue endpoints.parts).bind fun items => isDialogue_addAll watched members items

end Join

end KeyCluster

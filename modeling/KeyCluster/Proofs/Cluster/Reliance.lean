import KeyCluster.Proofs.Cluster.Breakage
import KeyCluster.Proofs.Cluster.Dialogue

/-! A joining that can go by every report it gets fails only as its calls do. -/

namespace KeyCluster

variable {σ : Type}

/-- A call ends with a failure, and leaves a state behind. -/
def ControlPlane.Raises (plane : ControlPlane σ) (failure : Failure) (after : σ) : Prop :=
  ∃ call before, (plane.make call).outcome before = (.error failure, after)

/-- A state is not left behind by a message that the log did not take, as long as the facts of the message
have free names. -/
def ControlPlane.Takes (plane : ControlPlane σ) (after : σ) : Prop :=
  ∀ entry failure before, entry.isFree = true →
    (plane.note entry).outcome before ≠ (.error failure, after)

/-- Questions for the status are only answered by reports of one kind. -/
def ControlPlane.Brings (plane : ControlPlane σ) (kind : Report → Prop) : Prop :=
  ∀ hosts watched before report after,
    (plane.status hosts watched).outcome before = (.ok report, after) → kind report

/-- A report suits an operation: where it is the answer, beside others that can be gone by, the operation
fails only as a call does. -/
def Report.Suits {α : Type} (report : Report) (operation : (σ : Type) → ControlPlane σ → Action σ α) :
    Prop :=
  ∀ (σ : Type) (plane : ControlPlane σ) (before after : σ) (failure : Failure),
    plane.Brings (fun other => other = report ∨ other.IsUsable) → plane.Takes after →
    (operation σ plane).outcome before = (.error failure, after) → plane.Raises failure after

/-- A chronicle that has nothing to tell. -/
def Chronicle.blank : Chronicle σ Unit where
  Tells _ _ _ := True
  nil _ := trivial
  append _ _ := trivial

variable {plane : ControlPlane σ} {kind : Report → Prop} {watched : Bool} {before after : σ}
  {failure : Failure}

/-- What remains of calls when only the kind of the reports and the failures are of interest. -/
theorem ControlPlane.Brings.accounts (brings : plane.Brings kind) :
    plane.Accounts .blank (fun _ _ => True) (fun _ report => kind report)
      fun call _ after failure => ∃ before, (plane.make call).outcome before = (.error failure, after) where
  status answered := ⟨[], trivial, trivial, brings _ _ _ _ _ answered⟩
  add _ := ⟨[], trivial, trivial⟩
  note _ := trivial
  statusBreaks failed := ⟨[], trivial, _, failed⟩
  addBreaks _ failed := ⟨[], trivial, _, failed⟩

/-- A report that can be gone by does no harm beside others that can be, too. -/
theorem ControlPlane.Brings.usable {report : Report}
    (brings : plane.Brings fun other => other = report ∨ other.IsUsable) (usable : report.IsUsable) :
    plane.Brings Report.IsUsable := by
  intro _ _ _ _ _ answered
  rcases brings _ _ _ _ _ answered with rfl | other
  · exact usable
  · exact other

/-- Calls that are broken off fail as one of them does, unless a message is not taken. -/
theorem ControlPlane.Takes.raises {β : Type} {chronicle : Chronicle σ β} {mark : Call → List β → Prop}
    {plan : List Call} (takes : plane.Takes after)
    (broken : plane.Broken chronicle mark
      (fun call _ after failure => ∃ before, (plane.make call).outcome before = (.error failure, after))
      plan before after failure) : plane.Raises failure after := by
  cases broken with
  | call planned made told broke => exact ⟨_, broke⟩
  | message planned made free untold => exact absurd untold (takes _ _ _ free)

namespace Discovery

/-- Discovery that can go by every report fails only as a call does. -/
theorem raises_of_usable {endpoints : List Text} (some : endpoints ≠ [])
    (brings : plane.Brings Report.IsUsable) (takes : plane.Takes after)
    (ran : (membership plane (.texts endpoints) watched).outcome before = (.error failure, after)) :
    plane.Raises failure after := by
  obtain ⟨endpoint, rest, rfl⟩ := List.exists_cons_of_ne_nil some
  -- How a discovery fails is known: in a call, at a message, or over a report that does not name a member.
  cases membership_eq_error brings.accounts ran with
  | broken found => exact takes.raises found
  | misnamed planned made told marked usable several unnamed =>
    -- A report of several members can be gone by only if it names them.
    rcases usable with alone | ⟨names, named⟩
    · rw [several] at alone
      cases alone
    · cases unnamed.symm.trans named

end Discovery

namespace Join

/-- A joining that can go by every report fails only as a call does. -/
theorem raises_of_usable {endpoints : List Text} (brings : plane.Brings Report.IsUsable)
    (takes : plane.Takes after)
    (ran : (join plane (.texts endpoints) watched).outcome before = (.error failure, after)) :
    plane.Raises failure after := by
  by_cases several : 2 ≤ endpoints.length
  -- Reports are looked into by discovery alone. What comes later are calls and messages.
  · rcases join_eq_error brings.accounts several ran with ⟨failed, _⟩ |
      ⟨_, _, _, _, _, _, broken⟩
    · have some : endpoints ≠ [] := List.ne_nil_of_length_pos (by omega)
      exact Discovery.raises_of_usable some brings takes failed
    · exact takes.raises broken
  · rw [join_of_length_lt (by omega)] at ran
    cases ran

end Join

namespace Report

variable {report : Report} {endpoints : List Text}

/-- A control plane on which nothing fails and every question is answered by the same report. -/
def steadyPlane (report : Report) : ControlPlane Unit where
  status _ _ := return report
  add _ _ _ := return ()
  note _ := return ()

/-- No call of this control plane fails. -/
theorem not_raises_steadyPlane : ¬ (steadyPlane report).Raises failure () := by
  rintro ⟨call, before, failed⟩
  cases call <;> cases failed

/-- Discovery among servers that all give one report of several members stumbles over a member without a
name. -/
theorem outcome_membership_steadyPlane {fault : ValueFault} (some : endpoints ≠ [])
    (several : report.isStandalone = false) (unnamed : report.hosts = .error fault) :
    (Discovery.membership (steadyPlane report) (.texts endpoints) watched).outcome () =
      (.error (.value fault), ()) := by
  -- The first answer is not of a single server, so its hosts are asked for, and they fail.
  obtain ⟨endpoint, rest, rfl⟩ := List.exists_cons_of_ne_nil some
  rw [Discovery.membership_texts]
  apply Action.outcome_bind_of_error
  rw [Discovery.probe_cons, Action.outcome_bind_of_ok (by rfl), Action.outcome_bind_of_ok (by rfl), several]
  apply Action.outcome_bind_of_error
  rw [unnamed]
  rfl

/-- An operation that fails among such servers suits only reports that can be gone by. -/
theorem Suits.isUsable {α : Type} {operation : (σ : Type) → ControlPlane σ → Action σ α}
    (suits : report.Suits operation)
    (stumbles : ∀ fault, report.isStandalone = false → report.hosts = .error fault →
      (operation Unit (steadyPlane report)).outcome () = (.error (.value fault), ())) :
    report.IsUsable := by
  -- The report is the only answer there is, and nothing else can fail.
  have brings : (steadyPlane report).Brings fun other => other = report ∨ other.IsUsable := by
    intro _ _ _ _ _ answered
    cases answered
    exact .inl rfl
  have takes : (steadyPlane report).Takes () := by
    intro _ _ _ _ untold
    cases untold
  by_contra unusable
  obtain ⟨several, unnamed⟩ := not_or.mp unusable
  -- Either the hosts are named, which was excluded, or the run stumbles over the first answer.
  cases read : report.hosts with
  | ok names => exact unnamed ⟨names, read⟩
  | error fault =>
    have ran := stumbles fault (by simpa using several) read
    exact not_raises_steadyPlane (suits _ _ _ _ _ brings takes ran)

/-- Discovery suits exactly the reports that can be gone by. -/
theorem suits_membership (some : endpoints ≠ []) :
    (report.Suits fun _ plane => Discovery.membership plane (.texts endpoints) watched) ↔
      report.IsUsable := by
  constructor
  · exact fun suits => suits.isUsable fun _ => outcome_membership_steadyPlane some
  · exact fun usable _ _ _ _ _ brings => Discovery.raises_of_usable some (brings.usable usable)

/-- And so does a joining of several endpoints. -/
theorem suits_join (several : 2 ≤ endpoints.length) :
    (report.Suits fun _ plane => Join.join plane (.texts endpoints) watched) ↔ report.IsUsable := by
  have some : endpoints ≠ [] := List.ne_nil_of_length_pos (by omega)
  constructor
  · -- Where the report is of no use, the search for members stumbles, and so does the joining.
    refine fun suits => suits.isUsable fun fault unalone unnamed => ?_
    rw [Join.join_of_length_ge several]
    exact Action.outcome_bind_of_error (outcome_membership_steadyPlane some unalone unnamed)
  · exact fun usable _ _ _ _ _ brings => Join.raises_of_usable (brings.usable usable)

end Report

end KeyCluster

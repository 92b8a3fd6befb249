/-! Cancellation and deadlines of operations that talk to servers. -/

namespace KeyCluster

/-- Why an operation has to stop. -/
inductive Lapse where
  | cancelled
  | deadline
  deriving DecidableEq, Repr

/-- What can stop an operation; `τ` is how time is told. -/
structure Context (τ : Type) where
  deadline : Option τ
  cancelled : Bool := false

namespace Context

section

variable {τ : Type} [OfNat τ 0]

/-- A context that begins now and lasts as long as is given, or without end. -/
def start [Add τ] (now : τ) (duration : Option τ) : Context τ :=
  { deadline := duration.map (now + ·) }

/-- The context of an operation that is cancelled. -/
def cancel (context : Context τ) : Context τ :=
  { context with cancelled := true }

variable [Sub τ] [LT τ] [DecidableLT τ]

/-- How long there is until the deadline, if there is one; it is never less than nothing. -/
def remaining? (context : Context τ) (now : τ) : Option τ :=
  context.deadline.map fun deadline => if 0 < deadline - now then deadline - now else 0

/-- Why the operation has to stop now, if it has to. A cancellation counts before the deadline. -/
def lapse? [LE τ] [DecidableLE τ] (context : Context τ) (now : τ) : Option Lapse :=
  if context.cancelled then some .cancelled
  else match context.remaining? now with
    | some time => if time ≤ 0 then some .deadline else none
    | none => none

/-- A time limit of any kind, or the time that remains where that is `less`. -/
def limitWith {α ε : Type} (less : τ → α → Except ε Bool) (ofTime : τ → α) (context : Context τ) (now : τ)
    (limit : α) : Except ε α :=
  match context.remaining? now with
  | none => .ok limit
  | some time => (less time limit).map fun isLess => if isLess then ofTime time else limit

/-- A time limit, or the time that remains if that is less. -/
def limit (context : Context τ) (now limit : τ) : τ :=
  match context.remaining? now with
  | none => limit
  | some time => if time < limit then time else limit

/-- Limits told as the time is are those of any kind. -/
theorem limitWith_eq_limit {ε : Type} (context : Context τ) (now limit : τ) :
    context.limitWith (ε := ε) (fun time most => .ok (decide (time < most))) id now limit =
      .ok (context.limit now limit) := by
  unfold limitWith Context.limit
  cases context.remaining? now <;> simp [Except.map]

end

end Context

end KeyCluster

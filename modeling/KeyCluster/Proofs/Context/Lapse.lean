import KeyCluster.Context
import Mathlib.Algebra.Order.BigOperators.Group.List
import Mathlib.Algebra.Order.Field.Rat

/-! An operation that has to stop has to stop for good, whatever is done with its context while the clock goes
on. Times are exact here. -/

namespace KeyCluster.Context

/-- A context, and what the clock shows. -/
structure Situation where
  context : Context ℚ
  now : ℚ

namespace Situation

/-- Why the operation has to stop, if it has to. -/
def lapse? (here : Situation) : Option Lapse :=
  here.context.lapse? here.now

/-- How long there is until the deadline, if there is one. -/
def remaining? (here : Situation) : Option ℚ :=
  here.context.remaining? here.now

/-- A time limit, or the time that remains if that is less. -/
def limit (here : Situation) (most : ℚ) : ℚ :=
  here.context.limit here.now most

end Situation

/-- What is done with a context, or happens beside it. -/
inductive Step where
  | cancel
  | check
  | remaining
  | limit (most : ℚ)
  | wait (span : ℚ)
  deriving DecidableEq

/-- What a step answers. -/
inductive Answer where
  | done
  | lapse (found : Option Lapse)
  | remaining (left : Option ℚ)
  | limit (time : ℚ)
  deriving DecidableEq

namespace Step

/-- Takes a step: what it answers, and how things stand after it. -/
def take : Step → Situation → Answer × Situation
  | cancel, here => (.done, { here with context := here.context.cancel })
  | check, here => (.lapse here.lapse?, here)
  | remaining, here => (.remaining here.remaining?, here)
  | limit most, here => (.limit (here.limit most), here)
  | wait span, here => (.done, { here with now := here.now + span })

/-- How long a step takes. -/
def span : Step → ℚ
  | wait span => span
  | _ => 0

end Step

/-- Takes steps in turn: what each of them answers, and how things stand after the last one. -/
def takeAll : List Step → Situation → List Answer × Situation
  | [], here => ([], here)
  | step :: rest, here =>
    let (first, after) := step.take here
    let (others, last) := takeAll rest after
    (first :: others, last)

/-- How long some steps take together. -/
def waited (steps : List Step) : ℚ :=
  (steps.map Step.span).sum

section Steps

variable {here : Situation} {steps : List Step}

/-- The deadline never moves, a cancellation is never taken back, and the clock shows how long was waited. -/
theorem takeAll_eq (steps : List Step) (here : Situation) : (takeAll steps here).2 =
    { context := { deadline := here.context.deadline
                   cancelled := here.context.cancelled || decide (.cancel ∈ steps) }
      now := here.now + waited steps } := by
  -- Only cancelling changes the context, and only waiting moves the clock.
  induction steps generalizing here with
  | nil => simp [takeAll, waited]
  | cons step rest ih =>
    rw [takeAll, ih]
    cases step <;> simp [Step.take, cancel, waited, Step.span, add_assoc]

/-- Where nobody waits backwards, no time is won. -/
theorem waited_nonneg (forward : ∀ span, .wait span ∈ steps → 0 ≤ span) : 0 ≤ waited steps := by
  refine List.sum_nonneg fun time inside => ?_
  obtain ⟨step, taken, rfl⟩ := List.mem_map.mp inside
  cases step with
  | wait span => exact forward span taken
  | _ => exact le_refl 0

end Steps

section Reading

variable {context : Context ℚ} {now most left : ℚ}

/-- What remains is the way to the deadline, and nothing behind it. -/
theorem remaining?_eq (context : Context ℚ) (now : ℚ) :
    context.remaining? now = context.deadline.map fun deadline => max 0 (deadline - now) := by
  refine congrArg (context.deadline.map ·) (funext fun deadline => ?_)
  -- The way is kept where it is longer than nothing, which is the larger of both.
  rcases lt_or_ge 0 (deadline - now) with ahead | passed
  · rw [if_pos ahead, max_eq_right ahead.le]
  · rw [if_neg passed.not_gt, max_eq_left passed]

/-- Nothing remains from the deadline on. -/
theorem remaining?_eq_zero : context.remaining? now = some 0 ↔
    ∃ deadline, context.deadline = some deadline ∧ deadline ≤ now := by
  simp [remaining?_eq]

/-- It is never less than nothing that remains. -/
theorem remaining?_nonneg (remains : context.remaining? now = some left) : 0 ≤ left := by
  rw [remaining?_eq] at remains
  obtain ⟨deadline, _, rfl⟩ := Option.map_eq_some_iff.mp remains
  exact le_max_left _ _

/-- A cancellation counts whatever the clock shows. -/
theorem lapse?_eq_cancelled : context.lapse? now = some .cancelled ↔ context.cancelled = true := by
  unfold lapse?
  -- A cancellation is looked at before the deadline.
  cases context.cancelled with
  | true => simp
  | false =>
    cases context.remaining? now with
    | none => simp
    | some left => by_cases passed : left ≤ 0 <;> simp [passed]

/-- The deadline counts where nothing was cancelled. -/
theorem lapse?_eq_deadline : context.lapse? now = some .deadline ↔
    context.cancelled = false ∧ ∃ deadline, context.deadline = some deadline ∧ deadline ≤ now := by
  rw [← remaining?_eq_zero]
  unfold lapse?
  cases context.cancelled with
  | true => simp
  | false =>
    cases remains : context.remaining? now with
    | none => simp
    | some left =>
      -- At most nothing remains only where nothing does.
      have nothing : left ≤ 0 ↔ left = 0 :=
        ⟨fun most => le_antisymm most (remaining?_nonneg remains), le_of_eq⟩
      simp [nothing]

/-- A time limit is the less of itself and what remains. -/
theorem limit_eq (context : Context ℚ) (now most : ℚ) :
    context.limit now most = (context.remaining? now).elim most (min most) := by
  unfold limit
  -- Without a deadline there is only the given time; with one, it is the lesser of two.
  cases context.remaining? now with
  | none => rfl
  | some left =>
    rcases lt_or_ge left most with less | enough
    · simp [less, less.le]
    · simp [enough.not_gt, enough]

end Reading

namespace Situation

variable {here : Situation} {left : ℚ}

/-- Where nothing stops the operation, some time remains. -/
theorem remaining_pos (going : here.lapse? = none) (remains : here.remaining? = some left) : 0 < left := by
  refine lt_of_le_of_ne (remaining?_nonneg remains) fun nothing => ?_
  -- A deadline that is reached stops the operation, if no cancellation has done so.
  have passed := remaining?_eq_zero.mp (remains.trans (congrArg some nothing.symm))
  cases cancelled : here.context.cancelled with
  | true => cases going.symm.trans (lapse?_eq_cancelled.mpr cancelled)
  | false => cases going.symm.trans (lapse?_eq_deadline.mpr ⟨cancelled, passed⟩)

/-- A time limit is what it was set to without a deadline, and else the less of this and what remains. -/
theorem limit_cases (here : Situation) (most : ℚ) : here.remaining? = none ∧ here.limit most = most ∨
    ∃ left, here.remaining? = some left ∧ here.limit most = min most left := by
  have least : here.limit most = here.remaining?.elim most (min most) := limit_eq _ _ _
  cases remains : here.remaining? with
  | none => exact .inl ⟨rfl, by rw [least, remains, Option.elim_none]⟩
  | some left => exact .inr ⟨left, rfl, by rw [least, remains, Option.elim_some]⟩

end Situation

/-- A situation that another one can lead to, if no time is taken back. -/
structure Situation.Later (here there : Situation) : Prop where
  deadline : there.context.deadline = here.context.deadline
  cancelled : here.context.cancelled = true → there.context.cancelled = true
  now : here.now ≤ there.now

/-- Steps lead to a later situation. -/
theorem later_takeAll {steps : List Step} (forward : ∀ span, .wait span ∈ steps → 0 ≤ span) (here : Situation) :
    here.Later (takeAll steps here).2 := by
  have time := waited_nonneg forward
  rw [takeAll_eq]
  exact ⟨rfl, fun cancelled => by simp [cancelled], by simpa using time⟩

namespace Situation.Later

variable {here there : Situation}

/-- Less remains later, or as much. -/
theorem remaining_le (later : here.Later there) {left : ℚ} (remains : here.remaining? = some left) :
    ∃ less, there.remaining? = some less ∧ less ≤ left := by
  rw [Situation.remaining?, remaining?_eq] at remains ⊢
  obtain ⟨deadline, known, rfl⟩ := Option.map_eq_some_iff.mp remains
  refine ⟨max 0 (deadline - there.now), by simp [later.deadline, known], ?_⟩
  -- The way to the deadline is shorter by the time that has passed.
  exact max_le_max (le_refl 0) (sub_le_sub_left later.now deadline)

/-- What had to stop has to stop later, too. -/
theorem lapses (later : here.Later there) (lapsed : here.lapse? ≠ none) : there.lapse? ≠ none := by
  obtain ⟨lapse, found⟩ := Option.ne_none_iff_exists'.mp lapsed
  by_cases stopped : there.context.cancelled = true
  · have cancelled : there.lapse? = some .cancelled := lapse?_eq_cancelled.mpr stopped
    simp [cancelled]
  · cases lapse with
    | cancelled => exact absurd (later.cancelled (lapse?_eq_cancelled.mp found)) stopped
    | deadline =>
      -- The deadline has passed, and the clock goes on from there.
      obtain ⟨_, deadline, known, passed⟩ := lapse?_eq_deadline.mp found
      have expired : there.lapse? = some .deadline := lapse?_eq_deadline.mpr
        ⟨by simpa using stopped, deadline, later.deadline.trans known, passed.trans later.now⟩
      simp [expired]

/-- A time limit is later as low, or lower. -/
theorem limit_le (later : here.Later there) (most : ℚ) : there.limit most ≤ here.limit most := by
  rcases here.limit_cases most with ⟨endless, same⟩ | ⟨left, remains, same⟩
  · -- What it was set to is the most that it can be.
    rw [same]
    rcases there.limit_cases most with ⟨_, same⟩ | ⟨_, _, same⟩
    · exact same.le
    · exact same.trans_le (min_le_left _ _)
  · -- With a deadline less is left later, so the lesser of the two times can only shrink.
    obtain ⟨less, remainsLess, fewer⟩ := later.remaining_le remains
    rcases there.limit_cases most with ⟨endless, _⟩ | ⟨_, known, sameLess⟩
    · cases endless.symm.trans remainsLess
    · cases known.symm.trans remainsLess
      rw [same, sameLess]
      exact min_le_min (le_refl most) fewer

end Situation.Later

/-- Behind the beginning, the deadline has passed once as much was waited as was given. -/
theorem passed_iff {now : ℚ} {duration : Option ℚ} {steps : List Step} {here : Situation}
    (arrived : (takeAll steps ⟨start now duration, now⟩).2 = here) :
    (∃ deadline, here.context.deadline = some deadline ∧ deadline ≤ here.now) ↔
      ∃ span, duration = some span ∧ span ≤ waited steps := by
  rw [takeAll_eq] at arrived
  subst arrived
  -- The deadline and the clock are counted from the same time on.
  simp [start]

/-- The time limit of a request is found as a client finds it, where times are compared as numbers. -/
theorem Situation.limitWith_eq {ε : Type} (here : Situation) (most : ℚ) :
    here.context.limitWith (ε := ε) (fun time most => .ok (decide (time < most))) id here.now most =
      .ok (here.limit most) :=
  limitWith_eq_limit here.context here.now most

/--
An operation begins that may last as long as is given, or without end. Whatever is done with its context, while
no time is taken back:

* Once it has to stop, it has to stop for good. It was cancelled from the first cancellation on, also after the
  deadline. Before that the deadline has passed exactly when a duration was given and at least as much was waited.
* What remains is never less than nothing and never grows. Nothing remains exactly from the deadline on.
* A time limit is never more than it was set to or than what remains, and it is one of both. It never grows, and
  it leaves some time as long as the operation need not stop. Clients limit their requests so
  (`Situation.limitWith_eq`).
-/
theorem lapse_final {now : ℚ} {duration : Option ℚ} {earlier later : List Step} {here there : Situation}
    (forward : ∀ span, .wait span ∈ earlier ++ later → 0 ≤ span)
    (arrived : (takeAll earlier ⟨start now duration, now⟩).2 = here) (went : (takeAll later here).2 = there) :
    (here.lapse? ≠ none → there.lapse? ≠ none) ∧
      (here.lapse? = some .cancelled ↔ .cancel ∈ earlier) ∧
      (here.lapse? = some .deadline ↔
        .cancel ∉ earlier ∧ ∃ span, duration = some span ∧ span ≤ waited earlier) ∧
      (here.remaining? = none ↔ duration = none) ∧
      (here.remaining? = some 0 ↔ ∃ span, duration = some span ∧ span ≤ waited earlier) ∧
      (∀ left, here.remaining? = some left →
        0 ≤ left ∧ ∃ less, there.remaining? = some less ∧ less ≤ left) ∧
      ∀ most, here.limit most ≤ most ∧ (∀ left, here.remaining? = some left → here.limit most ≤ left) ∧
        (here.limit most = most ∨ here.remaining? = some (here.limit most)) ∧
        there.limit most ≤ here.limit most ∧ (here.lapse? = none → 0 < most → 0 < here.limit most) := by
  have passed := passed_iff arrived
  have cancelled : here.context.cancelled = true ↔ .cancel ∈ earlier := by
    -- What is cancelled at a moment was cancelled at one of the steps before.
    rw [← arrived, takeAll_eq]
    simp [start]
  -- Whatever holds of a later moment follows from the steps in between.
  have follows : here.Later there := by
    rw [← went]
    exact later_takeAll (fun span inside => forward span (List.mem_append_right _ inside)) here
  refine ⟨follows.lapses, lapse?_eq_cancelled.trans cancelled, ?_, ?_, remaining?_eq_zero.trans passed, ?_, ?_⟩
  · rw [← cancelled, ← passed, Bool.not_eq_true]
    exact lapse?_eq_deadline
  · rw [← arrived, takeAll_eq, Situation.remaining?, remaining?_eq]
    simp [start]
  · exact fun left remains => ⟨remaining?_nonneg remains, follows.remaining_le remains⟩
  intro most
  -- The bounds hold with and without a deadline, for different reasons.
  rcases here.limit_cases most with ⟨endless, same⟩ | ⟨left, remains, same⟩
  · refine ⟨same.le, ?_, .inl same, follows.limit_le most, fun _ some => same.symm ▸ some⟩
    intro left remains
    cases endless.symm.trans remains
  · refine ⟨same.trans_le (min_le_left _ _), ?_, ?_, follows.limit_le most, ?_⟩
    · intro other known
      cases remains.symm.trans known
      exact same.trans_le (min_le_right _ _)
    · -- The less of two times is one of them.
      rcases min_choice most left with first | second
      · exact .inl (same.trans first)
      · exact .inr (by rw [remains, same, second])
    · -- While the operation goes on there is time left.
      intro going some
      rw [same]
      exact lt_min some (Situation.remaining_pos going remains)

/-- An operation of five seconds is looked at before its deadline, at its deadline and once it is cancelled. -/
theorem lapse_final_cancelled :
    (∀ span, .wait span ∈ ([.wait 2, .check, .limit 10, .wait 3, .remaining, .check] ++
      [.cancel, .check, .wait 1, .check] : List Step) → 0 ≤ span) ∧
    (takeAll ([.wait 2, .check, .limit 10, .wait 3, .remaining, .check] ++ [.cancel, .check, .wait 1, .check])
        ⟨start 1000 (some 5), 1000⟩).1 =
      [.done, .lapse none, .limit 3, .done, .remaining (some 0), .lapse (some .deadline),
        .done, .lapse (some .cancelled), .done, .lapse (some .cancelled)] ∧
    ∃ here there, (takeAll [.wait 2, .check, .limit 10, .wait 3, .remaining, .check]
        ⟨start 1000 (some 5), 1000⟩).2 = here ∧ (takeAll [.cancel, .check, .wait 1, .check] here).2 = there ∧
      here.lapse? = some .deadline ∧ here.remaining? = some 0 ∧ there.lapse? ≠ none := by
  have forward : ∀ span, .wait span ∈ ([.wait 2, .check, .limit 10, .wait 3, .remaining, .check] ++
      [.cancel, .check, .wait 1, .check] : List Step) → 0 ≤ span := by
    simp
  -- The deadline is reached after five seconds, and then the cancellation counts.
  obtain ⟨stays, _, expired, _, nothing, _⟩ := @lapse_final 1000 (some 5) _ _ _ _ forward rfl rfl
  have passed : ∃ span, some (5 : ℚ) = some span ∧
      span ≤ waited [.wait 2, .check, .limit 10, .wait 3, .remaining, .check] := ⟨5, rfl, by decide +kernel⟩
  have lapsed := expired.mpr ⟨by simp, passed⟩
  exact ⟨forward, by decide +kernel, _, _, rfl, rfl, lapsed, nothing.mpr passed, stays (by simp [lapsed])⟩

end KeyCluster.Context

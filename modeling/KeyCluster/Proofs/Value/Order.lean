import KeyCluster.Proofs.Number.Parts
import KeyCluster.Value.Convert

/-! How values compare as numbers. -/

namespace KeyCluster.Value

/-- One value is a number less than another one. -/
def IsLess (a b : Value) : Prop :=
  compareNumbers a b = some .lt

/-- One value is a number that is at most another one. -/
def IsAtMost (a b : Value) : Prop :=
  -- A number that is undefined is neither less than itself nor equal to itself.
  IsLess a b ∨ compareNumbers a b = some .eq

/-- A value is the double that is no number. -/
def IsUndefined (v : Value) : Prop :=
  ∃ x, v = .float x ∧ Double.view x = .nan

variable {a b v : Value} {x : Float}

/-- Only doubles can be undefined. -/
theorem isUndefined_float : (float x).IsUndefined ↔ Double.view x = .nan := by
  simp [IsUndefined]

/-- Comparing two numbers the other way round turns the result round. -/
theorem compareNumbers_swap (left : a.isNumber = true) (right : b.isNumber = true) :
    compareNumbers b a = (compareNumbers a b).map Ordering.swap := by
  -- Two integers compare as such, two doubles by their parts, and others the double against the integer.
  have integers (i j : Int) : compare j i = (compare i j).swap := Std.OrientedOrd.eq_swap
  have doubles (x y : Float) : Double.compareDouble y x = (Double.compareDouble x y).map Ordering.swap := by
    rw [Double.compareDouble_eq, Double.compareDouble_eq, Double.compare_swap]
  have mixed (x : Float) (i : Int) :
      ((Double.compareInt x i).map Ordering.swap).map Ordering.swap = Double.compareInt x i := by
    cases Double.compareInt x i <;> simp
  cases a with
  | float x =>
    cases b with
    | float y => exact doubles x y
    | bool _ | int _ => rfl
    | _ => cases right
  | bool _ | int _ =>
    cases b with
    | float y => exact (mixed y _).symm
    | bool _ | int _ => exact congrArg some (integers _ _)
    | _ => cases right
  | _ => cases left

/-- Numbers compare unless one of them is undefined. -/
theorem compareNumbers_eq_none (left : a.isNumber = true) (right : b.isNumber = true) :
    compareNumbers a b = none ↔ a.IsUndefined ∨ b.IsUndefined := by
  -- Only a double can be undefined, so an integer compares with everything but that.
  have integer {i : Int} : ¬ (int i).IsUndefined := by rintro ⟨_, ⟨⟩, _⟩
  have truth {t : Bool} : ¬ (bool t).IsUndefined := by rintro ⟨_, ⟨⟩, _⟩
  cases a with
  | float x =>
    cases b with
    | float y =>
      rw [isUndefined_float, isUndefined_float, Double.view_eq_nan, Double.view_eq_nan]
      change Double.compareDouble x y = none ↔ _
      rw [Double.compareDouble_eq, Double.compare_eq_none]
    | bool _ | int _ =>
      change Double.compareInt x _ = none ↔ _
      simp [Double.compareInt_eq_none, isUndefined_float, integer, truth]
    | _ => cases right
  | bool _ | int _ =>
    cases b with
    | float y =>
      change (Double.compareInt y _).map Ordering.swap = none ↔ _
      simp [Double.compareInt_eq_none, isUndefined_float, integer, truth]
    | bool _ | int _ => simp [compareNumbers, integer?, integer, truth]
    | _ => cases right
  | _ => cases left

/-- What is undefined is less than nothing. -/
theorem IsUndefined.not_isLess (undefined : b.IsUndefined) (number : a.isNumber = true) : ¬ IsLess a b := by
  obtain ⟨x, rfl, nan⟩ := undefined
  have apart := (compareNumbers_eq_none number (b := float x) rfl).mpr (.inr ⟨x, rfl, nan⟩)
  simp [IsLess, apart]

/-- Of two numbers that are not undefined, one is at most the other unless that is less. -/
theorem isAtMost_of_not_isLess (left : a.isNumber = true) (right : b.isNumber = true)
    (known : ¬ a.IsUndefined) (given : ¬ b.IsUndefined) (notLess : ¬ IsLess b a) : IsAtMost a b := by
  have turned := compareNumbers_swap left right
  have comparable : compareNumbers a b ≠ none := by
    simp [compareNumbers_eq_none left right, known, given]
  unfold IsAtMost IsLess
  -- Turned round, more would be less, which is ruled out.
  cases result : compareNumbers a b with
  | none => exact absurd result comparable
  | some order =>
    rw [result] at turned
    cases order with
    | lt => exact .inl rfl
    | eq => exact .inr rfl
    | gt => exact absurd turned notLess

/-- A number that is not undefined is at most itself. -/
theorem isAtMost_self (number : v.isNumber = true) (known : ¬ v.IsUndefined) : IsAtMost v v := by
  refine isAtMost_of_not_isLess number number known known fun less => ?_
  -- What is less than itself is also more than itself.
  have turned := compareNumbers_swap number number
  rw [IsLess] at less
  simp [less] at turned

/-- A double above zero is more than the integer zero. -/
theorem isLess_zero_of_pos (positive : 0 < x) : IsLess (int 0) (float x) := by
  change (Double.compareInt x 0).map Ordering.swap = some .lt
  rw [Double.compareInt_zero_of_pos positive]
  rfl

/-- A double above zero is not undefined. -/
theorem not_isUndefined_of_pos (positive : 0 < x) : ¬ (float x).IsUndefined := by
  rw [isUndefined_float, ← Double.compareInt_eq_none (i := 0), Double.compareInt_zero_of_pos positive]
  simp

end KeyCluster.Value

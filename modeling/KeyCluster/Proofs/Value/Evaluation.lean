import KeyCluster.Value.Basic

/-! Telling by evaluation what value comes of a step that may fail. -/

namespace KeyCluster.Value

variable {ε : Type}

mutual

/-- Whether two values are surely the same. Nothing is sure about doubles, and tagged values are not looked
at. -/
def isSurely : Value → Value → Bool
  | null, null => true
  | bool a, bool b => a == b
  | int a, int b => a == b
  | text a, text b => a == b
  | list as, list bs => areSurely as bs
  | map as, map bs => entriesAreSurely as bs
  | again a, again b => a == b
  | _, _ => false

/-- Whether items are surely the same. -/
def areSurely : List Value → List Value → Bool
  | [], [] => true
  | a :: as, b :: bs => isSurely a b && areSurely as bs
  | _, _ => false

/-- Whether entries are surely the same. -/
def entriesAreSurely : List (Value × Value) → List (Value × Value) → Bool
  | [], [] => true
  | (k, a) :: as, (l, b) :: bs => isSurely k l && isSurely a b && entriesAreSurely as bs
  | _, _ => false

end

mutual

/-- Values that are surely the same are the same. -/
theorem eq_of_isSurely {a b : Value} (same : isSurely a b = true) : a = b := by
  -- Only two values of one shape can surely be the same.
  unfold isSurely at same
  split at same
  · rfl
  · rw [eq_of_beq same]
  · rw [eq_of_beq same]
  · rw [eq_of_beq same]
  · rw [eq_of_areSurely same]
  · rw [eq_of_entriesAreSurely same]
  · rw [eq_of_beq same]
  · cases same

/-- So are items. -/
theorem eq_of_areSurely {as bs : List Value} (same : areSurely as bs = true) : as = bs := by
  match as, bs with
  | [], [] => rfl
  | a :: as, b :: bs =>
    rw [areSurely, Bool.and_eq_true] at same
    rw [eq_of_isSurely same.1, eq_of_areSurely same.2]
  | [], _ :: _ | _ :: _, [] => cases same

/-- So are entries. -/
theorem eq_of_entriesAreSurely {as bs : List (Value × Value)} (same : entriesAreSurely as bs = true) :
    as = bs := by
  match as, bs with
  | [], [] => rfl
  | (k, a) :: as, (l, b) :: bs =>
    rw [entriesAreSurely, Bool.and_eq_true, Bool.and_eq_true] at same
    rw [eq_of_isSurely same.1.1, eq_of_isSurely same.1.2, eq_of_entriesAreSurely same.2]
  | [], _ :: _ | _ :: _, [] => cases same

end

/-- A step gives the value that its result surely is. -/
theorem eq_ok_of_isSurely {result : Except ε Value} {value : Value}
    (there : result.toOption.any (isSurely value) = true) : result = .ok value := by
  cases result with
  | error => cases there
  | ok other => rw [eq_of_isSurely there]

/-- A step gives the entries that its result surely is. -/
theorem eq_ok_of_entriesAreSurely {result : Except ε (List (Value × Value))}
    {entries : List (Value × Value)} (there : result.toOption.any (entriesAreSurely entries) = true) :
    result = .ok entries := by
  cases result with
  | error => cases there
  | ok other => rw [eq_of_entriesAreSurely there]

end KeyCluster.Value

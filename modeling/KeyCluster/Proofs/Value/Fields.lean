import KeyCluster.Value.Basic
import Mathlib.Data.List.Forall2
import Mathlib.Data.Option.Basic

/-! Looking up entries of mappings by the texts that are their keys. -/

namespace KeyCluster.Value

variable {name : Text} {key value : Value} {entries results : List (Value × Value)}

/-- A value is a given text when it is asked for it. -/
@[simp] theorem isText_iff : key.isText name = true ↔ key = .text name := by
  cases key <;> simp [isText]

/-- No text is the key of two entries. -/
def NamesDiffer (entries : List (Value × Value)) : Prop :=
  (entries.map Prod.fst).Pairwise fun a b => ∀ name, a = .text name → b ≠ .text name

/-- The first entry under a name decides. -/
theorem field?_cons (entry : Value × Value) (rest : List (Value × Value)) :
    field? name (entry :: rest) = if entry.1.isText name then some entry.2 else field? name rest := by
  unfold field?
  rw [List.find?_cons]
  cases entry.1.isText name <;> rfl

/-- What is found under a name stands there. -/
theorem mem_of_field? (found : field? name entries = some value) : (.text name, value) ∈ entries := by
  obtain ⟨⟨key, _⟩, first, rfl⟩ := Option.map_eq_some_iff.mp found
  obtain rfl : key = .text name := by simpa using List.find?_some first
  exact List.mem_of_find?_eq_some first

/-- Nothing is found under a name when nothing stands there. -/
theorem field?_eq_none : field? name entries = none ↔ ∀ value, (.text name, value) ∉ entries := by
  induction entries with
  | nil => simp [field?]
  | cons entry rest ih =>
    rw [field?_cons]
    constructor
    · -- The first entry has the name or not; only the entries behind it matter if it has not.
      intro absent value inside
      split at absent
      · cases absent
      · rename_i other
        rcases List.mem_cons.mp inside with rfl | behind
        · exact other (isText_iff.mpr rfl)
        · exact ih.mp absent value behind
    · intro absent
      rw [if_neg, ih]
      · exact fun value inside => absent value (List.mem_cons_of_mem _ inside)
      · intro isName
        exact absent entry.2 (by rw [← isText_iff.mp isName]; exact List.mem_cons_self)

/-- Where names differ, what stands under one is found. -/
theorem field?_of_mem (differ : NamesDiffer entries) (inside : (.text name, value) ∈ entries) :
    field? name entries = some value := by
  induction entries with
  | nil => cases inside
  | cons entry rest ih =>
    obtain ⟨others, differ⟩ := List.pairwise_cons.mp differ
    rw [field?_cons]
    rcases List.mem_cons.mp inside with rfl | behind
    · simp [isText]
    · -- The entry in front has another key.
      have other : entry.1.isText name = false := by
        rw [Bool.eq_false_iff]
        intro same
        exact others _ (List.mem_map_of_mem behind) name (isText_iff.mp same) rfl
      rw [other, ih differ behind]
      rfl

/-- Entries that are related one by one under equal keys have related values under each name. -/
theorem field?_rel {R : Value → Value → Value → Prop}
    (related : List.Forall₂ (fun entry result => result.1 = entry.1 ∧ R entry.1 entry.2 result.2)
      entries results) (name : Text) :
    Option.Rel (R (.text name)) (field? name entries) (field? name results) := by
  induction related with
  | nil => exact .none
  | @cons entry result _ _ here _ ih =>
    -- The keys are the same, so both look-ups stop at the same place.
    rw [field?_cons, field?_cons, here.1]
    split
    · rename_i isName
      have related := here.2
      rw [isText_iff.mp isName] at related
      exact .some related
    · exact ih

/-- Entries that come from others by a function of their names have values that do so. -/
theorem field?_map {f : Text → Value → Value}
    (related : List.Forall₂ (fun entry result =>
      result.1 = entry.1 ∧ ∀ name, entry.1 = .text name → result.2 = f name entry.2) entries results)
    (name : Text) : field? name results = (field? name entries).map (f name) := by
  -- A function of the old value is a relation between the old one and the new one.
  have found := field?_rel (R := fun key v w => ∀ name, key = .text name → w = f name v) related name
  generalize field? name results = result at found ⊢
  generalize field? name entries = entry at found ⊢
  cases found with
  | none => rfl
  | some here => rw [here name rfl, Option.map_some]

/-- Whether names differ depends on the keys alone. -/
theorem namesDiffer_of_forall₂ {R : Value × Value → Value × Value → Prop}
    (related : List.Forall₂ R entries results)
    (kept : ∀ entry result, R entry result → result.1 = entry.1) (differ : NamesDiffer entries) :
    NamesDiffer results := by
  -- The keys stay, and the names are among the keys.
  have same : results.map Prod.fst = entries.map Prod.fst := by
    induction related with
    | nil => rfl
    | cons here _ ih =>
      rw [List.map_cons, List.map_cons, kept _ _ here, ih (List.pairwise_cons.mp differ).2]
  rwa [NamesDiffer, same]

end KeyCluster.Value

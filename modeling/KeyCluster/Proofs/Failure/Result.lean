import Mathlib.Tactic.Basic

/-! Steps that may fail, opened one at a time. -/

namespace KeyCluster.Result

variable {α β ε δ : Type} {e : ε}

/-- What is only returned is the result. -/
theorem pure_eq_ok {a b : α} : (pure a : Except ε α) = .ok b ↔ b = a := by
  simp [Pure.pure, Except.pure, eq_comm]

/-- A result of which something is left without the failures is a success. -/
theorem eq_ok_of_toOption {result : Except ε α} {a : α} (there : result.toOption = some a) :
    result = .ok a := by
  cases result <;> cases there
  rfl

/-- Two steps succeed when the first does, and the second does with what the first gives. -/
theorem bind_eq_ok {x : Except ε α} {f : α → Except ε β} {b : β} :
    (x >>= f) = .ok b ↔ ∃ a, x = .ok a ∧ f a = .ok b := by
  cases x <;> simp [Bind.bind, Except.bind]

/-- Two steps fail when the first does, or when the second does with what the first gives. -/
theorem bind_eq_error {x : Except ε α} {f : α → Except ε β} :
    (x >>= f) = .error e ↔ x = .error e ∨ ∃ a, x = .ok a ∧ f a = .error e := by
  cases x <;> simp [Bind.bind, Except.bind]

/-- Where a result is only returned behind a step, nothing but the step fails. -/
theorem bind_pure_eq_error {x : Except ε α} {f : α → β} :
    (x >>= fun a => pure (f a)) = .error e ↔ x = .error e := by
  cases x <;> simp [Bind.bind, Except.bind, Pure.pure, Except.pure]

/-- Changing a result changes no failure. -/
theorem map_eq_error {x : Except ε α} {f : α → β} : x.map f = .error e ↔ x = .error e := by
  cases x <;> simp [Except.map]

/-- Changing failures lets none appear. -/
theorem mapError_eq_error {x : Except ε α} {f : ε → δ} {d : δ} :
    x.mapError f = .error d ↔ ∃ e, x = .error e ∧ f e = d := by
  constructor
  · cases x with
    | error e => exact fun same => ⟨e, rfl, Except.error.inj same⟩
    | ok => rintro ⟨⟩
  · rintro ⟨e, rfl, rfl⟩
    rfl

/-- Changing a result makes none appear. -/
theorem map_eq_ok {x : Except ε α} {f : α → β} {b : β} : x.map f = .ok b ↔ ∃ a, x = .ok a ∧ f a = b := by
  constructor
  · cases x with
    | error => rintro ⟨⟩
    | ok a => exact fun same => ⟨a, rfl, Except.ok.inj same⟩
  · rintro ⟨a, rfl, rfl⟩
    rfl

/-- A changed result is there when the result is. -/
theorem exists_map_eq_ok {x : Except ε α} {f : α → β} : (∃ b, x.map f = .ok b) ↔ ∃ a, x = .ok a := by
  cases x <;> simp [Except.map]

/-- Two steps whose results are only put together succeed when each of them does. -/
theorem exists_bind_pure_eq_ok {γ : Type} {x : Except ε α} {y : Except ε γ} {f : α → γ → β} :
    (∃ b, (x >>= fun a => y >>= fun c => pure (f a c)) = .ok b) ↔ (∃ a, x = .ok a) ∧ ∃ c, y = .ok c := by
  cases x <;> cases y <;> simp [Bind.bind, Except.bind, Pure.pure, Except.pure]

/-- Such steps give what is put together from both results. -/
theorem bind_bind_pure_eq_ok {γ : Type} {x : Except ε α} {y : Except ε γ} {f : α → γ → β} {b : β} :
    (x >>= fun a => y >>= fun c => pure (f a c)) = .ok b ↔
      ∃ a, x = .ok a ∧ ∃ c, y = .ok c ∧ f a c = b := by
  cases x <;> cases y <;> simp [Bind.bind, Except.bind, Pure.pure, Except.pure]

/-- They fail when the first one does, or when the second one does and the first one does not. -/
theorem bind_bind_pure_eq_error {γ : Type} {x : Except ε α} {y : Except ε γ} {f : α → γ → β} :
    (x >>= fun a => y >>= fun c => pure (f a c)) = .error e ↔
      x = .error e ∨ (∃ a, x = .ok a) ∧ y = .error e := by
  cases x <;> cases y <;> simp [Bind.bind, Except.bind, Pure.pure, Except.pure]

/-- Changing failures changes no result. -/
theorem mapError_eq_ok {x : Except ε α} {f : ε → δ} {a : α} : x.mapError f = .ok a ↔ x = .ok a := by
  cases x with
  | error => exact ⟨nofun, nofun⟩
  | ok b =>
    change (.ok b : Except δ α) = .ok a ↔ _
    simp

/-- Walking a list succeeds when every item does. -/
theorem exists_mapM_eq_ok {f : α → Except ε β} {items : List α} :
    (∃ results, items.mapM f = .ok results) ↔ ∀ item ∈ items, ∃ b, f item = .ok b := by
  induction items with
  | nil => simp [Pure.pure, Except.pure]
  | cons head tail ih =>
    -- The walk has a result if the head has one and the walk through the tail has.
    simp only [List.mapM_cons, bind_eq_ok, List.forall_mem_cons, ← ih]
    constructor
    · rintro ⟨_, b, done, results, walked, _⟩
      exact ⟨⟨b, done⟩, results, walked⟩
    · rintro ⟨⟨b, done⟩, results, walked⟩
      exact ⟨b :: results, b, done, results, walked, rfl⟩

/-- Walking a list fails at the first item that does, behind others that do not. -/
theorem mapM_eq_error {f : α → Except ε β} {items : List α} :
    items.mapM f = .error e ↔ ∃ front item rest, items = front ++ item :: rest ∧
      (∀ other ∈ front, ∃ b, f other = .ok b) ∧ f item = .error e := by
  induction items with
  | nil => simp [Pure.pure, Except.pure]
  | cons head tail ih =>
    rw [List.mapM_cons, bind_eq_error]
    constructor
    · -- Either the head fails, or something behind it does while the head is fine.
      rintro (failed | ⟨b, done, failed⟩)
      · exact ⟨[], head, tail, rfl, by simp, failed⟩
      · obtain ⟨front, item, rest, rfl, fine, failed⟩ := ih.mp (bind_pure_eq_error.mp failed)
        exact ⟨head :: front, item, rest, rfl, List.forall_mem_cons.mpr ⟨⟨b, done⟩, fine⟩, failed⟩
    · rintro ⟨front, item, rest, same, fine, failed⟩
      cases front with
      | nil =>
        cases same
        exact .inl failed
      | cons other front =>
        cases same
        obtain ⟨⟨b, done⟩, fine⟩ := List.forall_mem_cons.mp fine
        exact .inr ⟨b, done, bind_pure_eq_error.mpr (ih.mpr ⟨front, item, rest, rfl, fine, failed⟩)⟩

end KeyCluster.Result

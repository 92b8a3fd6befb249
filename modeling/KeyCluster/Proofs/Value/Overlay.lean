import KeyCluster.Value.Basic
import Mathlib.Data.List.Nodup

/-! What is put into mappings whose keys are texts: fields that are laid over others. -/

namespace KeyCluster.Value

variable {name : Text} {value : Value} {lower upper fields : List (Text × Value)}

/-- Fields as the entries of a mapping. -/
def entries (fields : List (Text × Value)) : List (Value × Value) :=
  fields.map fun field => (.text field.1, field.2)

/-- The names of fields. -/
def names (fields : List (Text × Value)) : List Text :=
  fields.map Prod.fst

/-- Fields with others laid over them: a name that is there already keeps its place and takes the new value,
and the new names follow in their order. -/
def overlay (lower upper : List (Text × Value)) : List (Text × Value) :=
  lower.map (fun field => (field.1, (upper.lookup field.1).getD field.2))
    ++ upper.filter fun field => !(names lower).contains field.1

/-- Texts are the same key when they are the same. -/
theorem isSameKey_text (s t : Text) : isSameKey (.text s) (.text t) = (s == t) := by
  rw [isSameKey]

/-- Nothing stands under a name that no field has. -/
theorem lookup_eq_none (absent : name ∉ names fields) : fields.lookup name = none := by
  rw [List.lookup_eq_none_iff]
  intro field inside
  rw [bne_iff_ne]
  rintro rfl
  exact absent (List.mem_map_of_mem inside)

/-- With nothing over them, fields stay as they are. -/
@[simp] theorem overlay_nil_right (lower : List (Text × Value)) : overlay lower [] = lower := by
  simp [overlay]

/-- Laid over nothing, fields stay as they are. -/
@[simp] theorem overlay_nil_left (upper : List (Text × Value)) : overlay [] upper = upper := by
  simp [overlay, names]

/-- The names below come first, and the new ones follow. -/
theorem names_overlay (lower upper : List (Text × Value)) :
    names (overlay lower upper) = names lower ++ (names upper).filter fun n => !(names lower).contains n := by
  simp only [names, overlay, List.map_append, List.map_map, List.filter_map]
  rfl

/-- The names of both parts are there. -/
theorem mem_names_overlay : name ∈ names (overlay lower upper) ↔ name ∈ names lower ∨ name ∈ names upper := by
  rw [names_overlay, List.mem_append, List.mem_filter]
  by_cases below : name ∈ names lower <;> simp [below]

/-- Where each name stands once in both of two parts, it stands once in what these make. -/
theorem nodup_names_overlay (below : (names lower).Nodup) (above : (names upper).Nodup) :
    (names (overlay lower upper)).Nodup := by
  rw [names_overlay]
  refine below.append (above.filter _) fun name inside new => ?_
  simp [inside] at new

/-- What holds for the fields of both parts holds for those of what they make. -/
theorem forall_overlay {property : Text × Value → Prop} (below : ∀ field ∈ lower, property field)
    (above : ∀ field ∈ upper, property field) : ∀ field ∈ overlay lower upper, property field := by
  intro field inside
  rcases List.mem_append.mp inside with changed | new
  · -- A field in its old place has its old value, or one from above.
    obtain ⟨former, there, rfl⟩ := List.mem_map.mp changed
    cases found : upper.lookup former.1 with
    | none => exact below former there
    | some value =>
      obtain ⟨front, behind, rfl, _⟩ := List.lookup_eq_some_iff.mp found
      exact above _ (List.mem_append_cons_self)
  · exact above field (List.mem_of_mem_filter new)

/-- Fields that are laid over others one after the other do what they do together. -/
theorem overlay_cons (new : name ∉ names upper) :
    overlay (overlay lower [(name, value)]) upper = overlay lower ((name, value) :: upper) := by
  have absent := lookup_eq_none new
  -- The fields below take the value under their name, whichever part it comes from.
  have below : (lower.map fun field => (field.1, ([(name, value)].lookup field.1).getD field.2)).map
        (fun field => (field.1, (upper.lookup field.1).getD field.2))
      = lower.map fun field => (field.1, (((name, value) :: upper).lookup field.1).getD field.2) := by
    rw [List.map_map]
    refine List.map_congr_left fun field _ => ?_
    simp only [Function.comp_apply, List.lookup_cons, List.lookup_nil]
    cases same : field.1 == name with
    | true => rw [eq_of_beq same, absent]; rfl
    | false => rfl
  -- Behind them, the first new field stays in front of the others.
  have first (shown : List (Text × Value)) (there : ∀ field ∈ shown, field.1 = name) :
      shown.map (fun field => (field.1, (upper.lookup field.1).getD field.2)) = shown := by
    conv_rhs => rw [← List.map_id shown]
    refine List.map_congr_left fun field inside => ?_
    rw [there field inside, absent, ← there field inside]
    rfl
  -- None of the others has this name, so it does not matter for which of them are new.
  have others : (upper.filter fun field => !(names (overlay lower [(name, value)])).contains field.1)
      = upper.filter fun field => !(names lower).contains field.1 := by
    refine List.filter_congr fun field inside => ?_
    have other : field.1 ≠ name := by
      rintro rfl
      exact new (List.mem_map_of_mem inside)
    have same : field.1 ∈ names (overlay lower [(name, value)]) ↔ field.1 ∈ names lower := by
      rw [mem_names_overlay]
      simp [names, other]
    rw [List.contains_eq_mem, List.contains_eq_mem, decide_eq_decide.mpr same]
  rw [overlay, others, overlay, List.map_append, below, first _ (by simp), List.append_assoc,
    ← List.filter_append]
  rfl

/-- Putting one value into a mapping lays its field over the others. -/
theorem put_entries (below : (names lower).Nodup) :
    put (.text name) value (entries lower) = entries (overlay lower [(name, value)]) := by
  -- The mapping is gone through up to the field that has the name, or to its end.
  induction lower with
  | nil => rfl
  | cons field rest ih =>
    obtain ⟨other, below⟩ := List.nodup_cons.mp below
    have step : put (.text name) value (entries (field :: rest)) = if field.1 == name
        then (.text field.1, value) :: entries rest
        else (.text field.1, field.2) :: put (.text name) value (entries rest) := by
      rw [← isSameKey_text]
      rfl
    rw [step]
    split
    · -- The name stands nowhere behind, so nothing else changes.
      rename_i same
      rw [beq_iff_eq] at same
      have kept : rest.map (fun other => (other.1, ([(name, value)].lookup other.1).getD other.2)) = rest := by
        conv_rhs => rw [← List.map_id rest]
        refine List.map_congr_left fun next inside => ?_
        have apart : (next.1 == name) = false := by
          rw [beq_eq_false_iff_ne, ← same]
          intro again
          exact other (List.mem_map.mpr ⟨next, inside, again⟩)
        rw [List.lookup_cons, apart]
        rfl
      have nothing : ([(name, value)].filter fun new => !(names (field :: rest)).contains new.1) = [] := by
        simp [names, same]
      rw [overlay, nothing, List.append_nil, List.map_cons, kept, List.lookup_cons, same, beq_self_eq_true]
      rfl
    · -- This field stays, and the value is put behind it.
      rename_i different
      have apart : name ≠ field.1 := by
        rintro rfl
        exact different (beq_self_eq_true _)
      have new : (names (field :: rest)).contains name = (names rest).contains name := by
        rw [List.contains_eq_mem, List.contains_eq_mem, decide_eq_decide, names, List.map_cons, List.mem_cons,
          or_iff_right apart]
        rfl
      rw [Bool.not_eq_true] at different
      rw [ih below]
      simp only [overlay, entries, List.map_cons, List.lookup_cons, List.lookup_nil, different,
        Option.getD_none, List.cons_append, List.filter_cons, List.filter_nil, new]

/-- Putting the values of fields into a mapping lays these fields over the others. -/
theorem foldl_put_entries (below : (names lower).Nodup) (above : (names upper).Nodup) :
    (entries upper).foldl (fun done entry => put entry.1 entry.2 done) (entries lower)
      = entries (overlay lower upper) := by
  -- The first field is put, and the others are laid over what that makes.
  induction upper generalizing lower with
  | nil => rw [overlay_nil_right]; rfl
  | cons field rest ih =>
    obtain ⟨new, above⟩ := List.nodup_cons.mp above
    have once : (names (overlay lower [(field.1, field.2)])).Nodup :=
      nodup_names_overlay below (List.nodup_singleton _)
    rw [← overlay_cons new, ← ih once above, ← put_entries below]
    rfl

/-- A mapping of fields whose names differ has these fields. -/
theorem mapping_entries (once : (names fields).Nodup) : mapping (entries fields) = entries fields := by
  have none : (names []).Nodup := List.nodup_nil
  have laid := foldl_put_entries none once
  rwa [overlay_nil_left] at laid

end KeyCluster.Value

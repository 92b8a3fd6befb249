import KeyCluster.Config.Environment
import KeyCluster.Proofs.Config.Grammar
import KeyCluster.Proofs.Failure.Result
import KeyCluster.Proofs.List.Related
import Mathlib.Data.List.Infix

/-! When replacing the references to an environment succeeds, and what it makes of texts. -/

namespace KeyCluster

namespace Value

mutual

/-- Whether one comes to an end who goes through the lists and mappings of a value. What a tuple or a set
holds is left alone. -/
def isTraversable : Value → Bool
  | list items => areTraversable items
  | map entries => areEntriesTraversable entries
  | again .list | again .map => false
  | _ => true

/-- Whether one comes to an end who goes through some values. -/
def areTraversable : List Value → Bool
  | [] => true
  | item :: rest => item.isTraversable && areTraversable rest

/-- Whether one comes to an end who goes through the values of some entries. -/
def areEntriesTraversable : List (Value × Value) → Bool
  | [] => true
  | (_, value) :: rest => value.isTraversable && areEntriesTraversable rest

end

mutual

/-- How many levels of lists and mappings there are in a value. What a tuple or a set holds is left alone. -/
def levels : Value → Nat
  | list items => itemLevels items + 1
  | map entries => entryLevels entries + 1
  | _ => 0

/-- How many levels there are in some values. -/
def itemLevels : List Value → Nat
  | [] => 0
  | item :: rest => max item.levels (itemLevels rest)

/-- How many levels there are in the values of some entries. -/
def entryLevels : List (Value × Value) → Nat
  | [] => 0
  | (_, value) :: rest => max value.levels (entryLevels rest)

end

mutual

/-- The references in all texts of a value, those in tuples and sets included; those in keys do not count. -/
def everyReference : Value → List Reference
  | text s => textReferences s
  | list items | tuple items | set items => everyItemReference items
  | map entries => everyEntryReference entries
  | _ => []

/-- The references in all texts of some values. -/
def everyItemReference : List Value → List Reference
  | [] => []
  | item :: rest => item.everyReference ++ everyItemReference rest

/-- The references in all texts of the values of some entries. -/
def everyEntryReference : List (Value × Value) → List Reference
  | [] => []
  | (_, value) :: rest => value.everyReference ++ everyEntryReference rest

end

/-- The references in a text are the references among its pieces. -/
theorem mem_textReferences {text : Text} {r : Reference} :
    r ∈ textReferences text ↔ .reference r ∈ Piece.ofText text := by
  rw [textReferences, List.mem_filterMap]
  constructor
  · -- A piece that is a reference is kept as it is, and all others are dropped.
    rintro ⟨piece, isPiece, same⟩
    cases piece with
    | point => cases same
    | reference =>
      cases same
      exact isPiece
  · exact fun isPiece => ⟨_, isPiece, rfl⟩

/-- There is no reference in a text in which none begins. -/
theorem textReferences_of_plain {text : Text} (plain : ¬ Reference.opening <:+: text) :
    textReferences text = [] := by
  rw [textReferences, Piece.ofText_of_plain plain, List.filterMap_map]
  simp

end Value

namespace Environment

variable {environment : Environment}

/-- A variable is set, or there is a text that stands in for it. -/
def Resolves (environment : Environment) (r : Reference) : Prop :=
  (environment r.name).isSome = true ∨ r.fallback.isSome = true

/-- A reference stands for a text when it resolves. -/
theorem exists_resolve_eq_ok {r : Reference} :
    (∃ text, environment.resolve r = .ok text) ↔ environment.Resolves r := by
  unfold resolve Resolves
  cases environment r.name <;> cases r.fallback <;> simp

/-- Pieces stand for a text when each reference among them resolves. -/
theorem exists_expandPieces_eq_ok {pieces : List Piece} :
    (∃ text, environment.expandPieces pieces = .ok text) ↔
      ∀ r, .reference r ∈ pieces → environment.Resolves r := by
  -- A sequence of pieces succeeds if each one does, and only references can fail.
  induction pieces with
  | nil => simp [expandPieces]
  | cons piece rest ih =>
    rw [expandPieces, Result.exists_bind_pure_eq_ok, ih]
    cases piece with
    | point c => simp [expandPiece]
    | reference r => simp [expandPiece, exists_resolve_eq_ok]

/-- A text can be expanded when each reference in it resolves. -/
theorem exists_expandText_eq_ok {text : Text} :
    (∃ expanded, environment.expandText text = .ok expanded) ↔
      ∀ r ∈ Value.textReferences text, environment.Resolves r := by
  simp only [expandText, exists_expandPieces_eq_ok, Value.mem_textReferences]

mutual

/-- A value can be expanded when one comes to an end who goes through it, there is room for its levels, and
each reference on the way resolves. -/
theorem exists_expandWithin_eq_ok (room : Nat) (v : Value) :
    (∃ expanded, environment.expandWithin room v = .ok expanded) ↔
      v.isTraversable = true ∧ v.levels ≤ room ∧ ∀ r ∈ v.references, environment.Resolves r := by
  -- One level is used up by each list and each mapping, and what is in them has the levels that are left.
  cases v with
  | text s =>
    simp only [expandWithin, Result.mapError_eq_ok, Result.exists_map_eq_ok, exists_expandText_eq_ok,
      Value.isTraversable, Value.levels, Value.references, Nat.zero_le, true_and]
  | list items =>
    cases room with
    | zero => simp [expandWithin, Value.levels]
    | succ room =>
      rw [expandWithin, Result.exists_map_eq_ok, exists_expandItemsWithin_eq_ok room items,
        Value.isTraversable, Value.levels, Value.references, Nat.add_le_add_iff_right]
  | map entries =>
    cases room with
    | zero => simp [expandWithin, Value.levels]
    | succ room =>
      rw [expandWithin, Result.exists_map_eq_ok, exists_expandEntriesWithin_eq_ok room entries,
        Value.isTraversable, Value.levels, Value.references, Nat.add_le_add_iff_right]
  | again kind => cases kind <;> simp [expandWithin, Value.isTraversable, Value.levels, Value.references]
  | _ => simp [expandWithin, Value.isTraversable, Value.levels, Value.references]

/-- Items can be expanded when each of them can. -/
theorem exists_expandItemsWithin_eq_ok (room : Nat) (items : List Value) :
    (∃ expanded, environment.expandItemsWithin room items = .ok expanded) ↔
      Value.areTraversable items = true ∧ Value.itemLevels items ≤ room ∧
        ∀ r ∈ Value.itemReferences items, environment.Resolves r := by
  -- Both conditions on the levels are about the deepest item, which is the greater of two numbers.
  match items with
  | [] => simp [expandItemsWithin, Value.areTraversable, Value.itemLevels, Value.itemReferences]
  | item :: rest =>
    rw [expandItemsWithin, Result.exists_bind_pure_eq_ok, exists_expandWithin_eq_ok room item,
      exists_expandItemsWithin_eq_ok room rest, Value.areTraversable, Value.itemLevels,
      Value.itemReferences, Bool.and_eq_true, Nat.max_le, List.forall_mem_append]
    exact and_and_and_comm.trans (and_congr .rfl and_and_and_comm)

/-- Entries can be expanded when each of their values can. -/
theorem exists_expandEntriesWithin_eq_ok (room : Nat) (entries : List (Value × Value)) :
    (∃ expanded, environment.expandEntriesWithin room entries = .ok expanded) ↔
      Value.areEntriesTraversable entries = true ∧ Value.entryLevels entries ≤ room ∧
        ∀ r ∈ Value.entryReferences entries, environment.Resolves r := by
  match entries with
  | [] =>
    simp [expandEntriesWithin, Value.areEntriesTraversable, Value.entryLevels, Value.entryReferences]
  | (key, value) :: rest =>
    rw [expandEntriesWithin, Result.exists_bind_pure_eq_ok, exists_expandWithin_eq_ok room value,
      exists_expandEntriesWithin_eq_ok room rest, Value.areEntriesTraversable, Value.entryLevels,
      Value.entryReferences, Bool.and_eq_true, Nat.max_le, List.forall_mem_append]
    exact and_and_and_comm.trans (and_congr .rfl and_and_and_comm)

end

/-- Code points stand for themselves. -/
theorem expandPieces_points (text : Text) : environment.expandPieces (text.map .point) = .ok text := by
  induction text with
  | nil => rfl
  | cons c rest ih =>
    rw [List.map_cons, expandPieces, ih]
    rfl

/-- A text in which no reference begins stays as it is. -/
theorem expandText_of_plain {text : Text} (plain : ¬ Reference.opening <:+: text) :
    environment.expandText text = .ok text := by
  rw [expandText, Piece.ofText_of_plain plain, expandPieces_points]

/-- A reference that is written alone becomes the text of its variable. -/
theorem expandText_written {name text : Text} (isName : Reference.IsName name)
    (set : environment name = some text) : environment.expandText (Reference.written name) = .ok text := by
  rw [expandText, Piece.ofText_written isName]
  simp [expandPieces, expandPiece, resolve, set, Bind.bind, Except.bind, Pure.pure, Except.pure]

section Within

variable {room : Nat}

/-- Entries are treated one after another, and keep their keys. -/
theorem expandEntriesWithin_eq_mapM (entries : List (Value × Value)) :
    environment.expandEntriesWithin room entries =
      entries.mapM fun entry => return (entry.1, ← environment.expandWithin room entry.2) := by
  induction entries with
  | nil => rfl
  | cons entry rest ih =>
    rw [expandEntriesWithin, List.mapM_cons, ih]
    simp only [bind_assoc, pure_bind]

/-- Entries behind others are treated after them. -/
theorem expandEntriesWithin_append (front rest : List (Value × Value)) :
    environment.expandEntriesWithin room (front ++ rest) = (do
      let front ← environment.expandEntriesWithin room front
      return front ++ (← environment.expandEntriesWithin room rest)) := by
  simp only [expandEntriesWithin_eq_mapM, List.mapM_append]

/-- Items in which no reference begins stay as they are. -/
theorem expandWithin_texts_of_plain {items : List Text}
    (plain : ∀ item ∈ items, ¬ Reference.opening <:+: item) :
    environment.expandWithin (room + 1) (.texts items) = .ok (.texts items) := by
  -- Plain items stay as they are, one by one.
  have same : environment.expandItemsWithin room (items.map .text) = .ok (items.map .text) := by
    induction items with
    | nil => rfl
    | cons item rest ih =>
      obtain ⟨here, behind⟩ := List.forall_mem_cons.mp plain
      rw [List.map_cons, expandItemsWithin, expandWithin, expandText_of_plain here, ih behind]
      rfl
  rw [Value.texts, expandWithin, same]
  rfl

/-- A reference that is written alone as a value becomes the text of its variable. -/
theorem expandWithin_written {name text : Text} (isName : Reference.IsName name)
    (set : environment name = some text) :
    environment.expandWithin room (.text (Reference.written name)) = .ok (.text text) := by
  rw [expandWithin, expandText_written isName set]
  rfl

end Within

/-- Inside a mapping there is room for two levels, and more. -/
theorem expandEntries_eq (entries : List (Value × Value)) :
    environment.expandEntries entries = environment.expandEntriesWithin (levelLimit - 3 + 2) entries :=
  rfl

end Environment

end KeyCluster

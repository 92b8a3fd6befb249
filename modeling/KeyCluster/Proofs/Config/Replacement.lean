import KeyCluster.Config.Load
import KeyCluster.Proofs.Config.Expansion
import KeyCluster.Proofs.Value.Evaluation
import Mathlib.Data.List.Forall2
import Mathlib.Tactic.Common

/-! What replacing the references makes of a nested value, and which missing variable is told about. -/

namespace KeyCluster

namespace Value

/-- A text stands in a value, in some list or under some key, however deep. -/
inductive Holds (text : Text) : Value → Prop
  | here : Holds text (.text text)
  | item {items : List Value} {item : Value} (inside : item ∈ items) (deeper : Holds text item) :
      Holds text (.list items)
  | entry {entries : List (Value × Value)} {entry : Value × Value} (inside : entry ∈ entries)
      (deeper : Holds text entry.2) : Holds text (.map entries)

/-- A value refers to a variable: one of the texts in it is read with that reference. -/
def Refers (v : Value) (r : Reference) : Prop :=
  ∃ text pieces, v.Holds text ∧ Piece.Reads text pieces ∧ .reference r ∈ pieces

/-- A value has no parts to go through, and is no text. -/
def isLeaf : Value → Bool
  | text _ | list _ | map _ => false
  -- What comes back to itself has parts, but no last one.
  | again .list | again .map => false
  | _ => true

variable {r : Reference}

/-- A text refers to what it is read with. -/
theorem refers_text {text : Text} : (Value.text text).Refers r ↔ r ∈ textReferences text := by
  rw [mem_textReferences]
  constructor
  · rintro ⟨_, pieces, ⟨⟩, reads, inside⟩
    rwa [Piece.reads_iff.mp reads]
  · exact fun inside => ⟨text, _, .here, Piece.reads_iff.mpr rfl, inside⟩

/-- A list refers to what its items refer to. -/
theorem refers_list {items : List Value} :
    (Value.list items).Refers r ↔ ∃ item ∈ items, item.Refers r := by
  constructor
  · -- A text inside a list is inside one of its items.
    rintro ⟨text, pieces, holds, found⟩
    cases holds with
    | item inside deeper => exact ⟨_, inside, text, pieces, deeper, found⟩
  · rintro ⟨item, inside, text, pieces, deeper, found⟩
    exact ⟨text, pieces, .item inside deeper, found⟩

/-- A mapping refers to what its values refer to. Its keys do not count. -/
theorem refers_map {entries : List (Value × Value)} :
    (Value.map entries).Refers r ↔ ∃ entry ∈ entries, entry.2.Refers r := by
  constructor
  · -- A text inside a mapping is inside the value of one of its entries.
    rintro ⟨text, pieces, holds, found⟩
    cases holds with
    | entry inside deeper => exact ⟨_, inside, text, pieces, deeper, found⟩
  · rintro ⟨entry, inside, text, pieces, deeper, found⟩
    exact ⟨text, pieces, .entry inside deeper, found⟩

mutual

/-- The references that are listed in order are those to which a value refers. -/
theorem mem_references (v : Value) : r ∈ v.references ↔ v.Refers r := by
  cases v with
  | text s => rw [references, refers_text]
  | list items => rw [references, mem_itemReferences items, refers_list]
  | map entries => rw [references, mem_entryReferences entries, refers_map]
  | null | bool _ | int _ | float _ | bytes _ | date _ | moment _ | tuple _ | set _ | again _ =>
    -- No text stands in anything else.
    refine ⟨nofun, ?_⟩
    rintro ⟨_, _, ⟨⟩, _⟩

/-- The same for some values. -/
theorem mem_itemReferences (items : List Value) :
    r ∈ itemReferences items ↔ ∃ item ∈ items, item.Refers r := by
  match items with
  | [] => simp [itemReferences]
  | item :: rest =>
    rw [itemReferences, List.mem_append, mem_references item, mem_itemReferences rest]
    simp

/-- The same for some entries. -/
theorem mem_entryReferences (entries : List (Value × Value)) :
    r ∈ entryReferences entries ↔ ∃ entry ∈ entries, entry.2.Refers r := by
  match entries with
  | [] => simp [entryReferences]
  | (key, value) :: rest =>
    rw [entryReferences, List.mem_append, mem_references value, mem_entryReferences rest]
    simp

end

end Value

namespace Environment

variable {environment : Environment}

instance (r : Reference) : Decidable (environment.Resolves r) :=
  inferInstanceAs (Decidable (_ ∨ _))

/-- The first of some references that does not resolve. -/
def missing? (environment : Environment) (references : List Reference) : Option Reference :=
  references.find? fun r => ¬ environment.Resolves r

/-- None is missing when all of them resolve. -/
theorem missing?_eq_none {references : List Reference} :
    environment.missing? references = none ↔ ∀ r ∈ references, environment.Resolves r := by
  simp [missing?]

/-- What is missing in front is told about first. -/
theorem missing?_append {front rest : List Reference} {r : Reference} :
    environment.missing? (front ++ rest) = some r ↔ environment.missing? front = some r ∨
      (∀ other ∈ front, environment.Resolves other) ∧ environment.missing? rest = some r := by
  rw [← missing?_eq_none, missing?, List.find?_append, Option.or_eq_some_iff]
  rfl

/-- The text that a piece is replaced by. -/
inductive Stands (environment : Environment) : Piece → Text → Prop
  /-- A code point stays. -/
  | point (c : CodePoint) : Stands environment (.point c) [c]
  /-- The text of the variable, even if it is empty. -/
  | set {r : Reference} {text : Text} (set : environment r.name = some text) :
      Stands environment (.reference r) text
  /-- The fallback, if the variable is not set. -/
  | fallback {r : Reference} {text : Text} (unset : environment r.name = none)
      (given : r.fallback = some text) : Stands environment (.reference r) text

mutual

/-- A value comes from another one by replacing the references in its texts. Everything else is as it was. -/
inductive Replaces (environment : Environment) : Value → Value → Prop
  /-- The pieces of a text are replaced one by one, and what stands for them is not read again. -/
  | text {s : Text} {pieces : List Piece} {parts : List Text} (reads : Piece.Reads s pieces)
      (stand : List.Forall₂ environment.Stands pieces parts) :
      Replaces environment (.text s) (.text parts.flatten)
  /-- A list keeps its length. -/
  | list {items results : List Value} (inside : ReplacesItems environment items results) :
      Replaces environment (.list items) (.list results)
  /-- A mapping keeps its keys and their order. -/
  | map {entries results : List (Value × Value)} (inside : ReplacesEntries environment entries results) :
      Replaces environment (.map entries) (.map results)
  /-- What is neither is left alone. -/
  | leaf {v : Value} (isLeaf : v.isLeaf = true) : Replaces environment v v

/-- Items come from others one by one. -/
inductive ReplacesItems (environment : Environment) : List Value → List Value → Prop
  | nil : ReplacesItems environment [] []
  | cons {item result : Value} {rest results : List Value} (here : Replaces environment item result)
      (behind : ReplacesItems environment rest results) :
      ReplacesItems environment (item :: rest) (result :: results)

/-- Entries come from others one by one, under equal keys. -/
inductive ReplacesEntries (environment : Environment) :
    List (Value × Value) → List (Value × Value) → Prop
  | nil : ReplacesEntries environment [] []
  | cons {key value result : Value} {rest results : List (Value × Value)}
      (here : Replaces environment value result) (behind : ReplacesEntries environment rest results) :
      ReplacesEntries environment ((key, value) :: rest) ((key, result) :: results)

end

/-- A reference is replaced by the text of its variable or by its fallback. -/
theorem expandPiece_eq_ok {piece : Piece} {text : Text} :
    environment.expandPiece piece = .ok text ↔ environment.Stands piece text := by
  constructor
  · intro expanded
    cases piece with
    | point c =>
      cases expanded
      exact .point c
    | reference r =>
      change environment.resolve r = _ at expanded
      unfold resolve at expanded
      -- The variable is looked up first.
      split at expanded
      · rename_i set
        cases expanded
        exact .set set
      · rename_i unset given
        cases expanded
        exact .fallback unset given
      · cases expanded
  · intro stands
    -- Whatever stands for a piece by the rules is what the program looks up.
    cases stands with
    | point => rfl
    | set set => simp [expandPiece, resolve, set]
    | fallback unset given => simp [expandPiece, resolve, unset, given]

/-- Pieces are replaced one by one, and what stands for them is put together. -/
theorem expandPieces_eq_ok {pieces : List Piece} {text : Text} :
    environment.expandPieces pieces = .ok text ↔
      ∃ parts, List.Forall₂ environment.Stands pieces parts ∧ text = parts.flatten := by
  -- The parts are collected along the pieces.
  induction pieces generalizing text with
  | nil =>
    constructor
    · rintro ⟨⟩
      exact ⟨[], .nil, rfl⟩
    · rintro ⟨_, ⟨⟩, rfl⟩
      rfl
  | cons piece rest ih =>
    simp only [expandPieces, Result.bind_eq_ok, expandPiece_eq_ok, ih]
    constructor
    · rintro ⟨here, stands, _, ⟨parts, behind, rfl⟩, ⟨⟩⟩
      exact ⟨here :: parts, .cons stands behind, rfl⟩
    · rintro ⟨_, ⟨⟩ | ⟨stands, behind⟩, rfl⟩
      exact ⟨_, stands, _, ⟨_, behind, rfl⟩, rfl⟩

variable {room : Nat}

/-- A text alone is expanded to a text. -/
theorem expand_text_eq_ok {s : Text} {v : Value} : environment.expandWithin room (.text s) = .ok v ↔
    ∃ text, environment.expandText s = .ok text ∧ .text text = v := by
  rw [expandWithin, Result.mapError_eq_ok, Result.map_eq_ok]

/-- It fails only for a missing variable. -/
theorem expand_text_eq_error {s : Text} {failure : Failure} :
    environment.expandWithin room (.text s) = .error failure ↔
      ∃ fault, environment.expandText s = .error fault ∧ .config fault = failure := by
  rw [expandWithin, Result.mapError_eq_error]
  simp only [Result.map_eq_error]

/-- What has no parts is left alone, however little room there is. -/
theorem expandWithin_of_isLeaf {v result : Value} (isLeaf : v.isLeaf = true) :
    environment.expandWithin room v = .ok result ↔ v.levels ≤ room ∧ environment.Replaces v result := by
  -- What is neither a text nor a list nor a mapping takes no level and is its own result.
  have same : environment.expandWithin room v = .ok v ∧ v.levels = 0 := by
    cases v with
    | text | list | map => cases isLeaf
    | again kind =>
      cases kind with
      | list | map => cases isLeaf
      | _ => exact ⟨by simp [expandWithin], rfl⟩
    | _ => exact ⟨by simp [expandWithin], rfl⟩
  rw [same.1, same.2]
  constructor
  · rintro ⟨⟩
    exact ⟨Nat.zero_le _, .leaf isLeaf⟩
  · rintro ⟨_, replaces⟩
    cases replaces with
    | leaf => rfl
    | _ => cases isLeaf

mutual

/-- A value is expanded to what comes from it by replacing its references, if there is room for its levels. -/
theorem expandWithin_eq_ok {room : Nat} {v result : Value} :
    environment.expandWithin room v = .ok result ↔
      v.levels ≤ room ∧ environment.Replaces v result := by
  cases v with
  -- A text is replaced piece by piece.
  | text s =>
    simp only [expand_text_eq_ok, expandText, expandPieces_eq_ok]
    constructor
    · rintro ⟨_, ⟨parts, stand, rfl⟩, rfl⟩
      exact ⟨Nat.zero_le _, .text (Piece.reads_iff.mpr rfl) stand⟩
    · rintro ⟨_, ⟨reads, stand⟩ | _ | _ | ⟨⟨⟩⟩⟩
      rw [Piece.reads_iff.mp reads]
      exact ⟨_, ⟨_, stand, rfl⟩, rfl⟩
  | list items =>
    -- A list and a mapping take a level, and are left alone where there is none.
    cases room with
    | zero => simp [expandWithin, Value.levels]
    | succ room =>
      simp only [expandWithin, Result.map_eq_ok, expandItemsWithin_eq_ok, Value.levels,
        Nat.add_le_add_iff_right]
      constructor
      · rintro ⟨results, ⟨fits, inside⟩, rfl⟩
        exact ⟨fits, .list inside⟩
      · rintro ⟨fits, _ | inside | _ | ⟨⟨⟩⟩⟩
        exact ⟨_, ⟨fits, inside⟩, rfl⟩
  | map entries =>
    cases room with
    | zero => simp [expandWithin, Value.levels]
    | succ room =>
      simp only [expandWithin, Result.map_eq_ok, expandEntriesWithin_eq_ok, Value.levels,
        Nat.add_le_add_iff_right]
      constructor
      · rintro ⟨results, ⟨fits, inside⟩, rfl⟩
        exact ⟨fits, .map inside⟩
      · rintro ⟨fits, _ | _ | inside | ⟨⟨⟩⟩⟩
        exact ⟨_, ⟨fits, inside⟩, rfl⟩
  | again kind =>
    cases kind with
    | list | map =>
      -- The walk never comes to an end.
      refine ⟨by simp [expandWithin], ?_⟩
      rintro ⟨_, _ | _ | _ | isLeaf⟩
      cases isLeaf
    | _ => exact expandWithin_of_isLeaf rfl
  | _ => exact expandWithin_of_isLeaf rfl

/-- So are items. -/
theorem expandItemsWithin_eq_ok {room : Nat} {items results : List Value} :
    environment.expandItemsWithin room items = .ok results ↔
      Value.itemLevels items ≤ room ∧ environment.ReplacesItems items results := by
  match items with
  | [] =>
    constructor
    · rintro ⟨⟩
      exact ⟨Nat.zero_le _, .nil⟩
    · rintro ⟨_, ⟨⟩⟩
      rfl
  | item :: rest =>
    -- The levels of the items are bounded if those of the first one and of the others are.
    rw [expandItemsWithin, Result.bind_bind_pure_eq_ok, Value.itemLevels, Nat.max_le]
    simp only [expandWithin_eq_ok, expandItemsWithin_eq_ok]
    constructor
    · rintro ⟨result, ⟨fits, here⟩, results, ⟨fit, behind⟩, rfl⟩
      exact ⟨⟨fits, fit⟩, .cons here behind⟩
    · rintro ⟨⟨fits, fit⟩, _ | ⟨here, behind⟩⟩
      exact ⟨_, ⟨fits, here⟩, _, ⟨fit, behind⟩, rfl⟩

/-- So are entries. -/
theorem expandEntriesWithin_eq_ok {room : Nat} {entries results : List (Value × Value)} :
    environment.expandEntriesWithin room entries = .ok results ↔
      Value.entryLevels entries ≤ room ∧ environment.ReplacesEntries entries results := by
  match entries with
  | [] =>
    constructor
    · rintro ⟨⟩
      exact ⟨Nat.zero_le _, .nil⟩
    · rintro ⟨_, ⟨⟩⟩
      rfl
  | (key, value) :: rest =>
    rw [expandEntriesWithin, Result.bind_bind_pure_eq_ok, Value.entryLevels, Nat.max_le]
    simp only [expandWithin_eq_ok, expandEntriesWithin_eq_ok]
    constructor
    · rintro ⟨result, ⟨fits, here⟩, results, ⟨fit, behind⟩, rfl⟩
      exact ⟨⟨fits, fit⟩, .cons here behind⟩
    · rintro ⟨⟨fits, fit⟩, _ | ⟨here, behind⟩⟩
      exact ⟨_, ⟨fits, here⟩, _, ⟨fit, behind⟩, rfl⟩

end

section Failing

variable {failure : Failure}

/-- A reference that does not resolve is a missing variable. -/
theorem resolve_eq_error {r : Reference} {fault : ConfigFault} :
    environment.resolve r = .error fault ↔ ¬ environment.Resolves r ∧ fault = .unset r.name := by
  unfold resolve Resolves
  cases environment r.name <;> cases r.fallback <;> simp [eq_comm]

/-- Pieces cannot be replaced when a reference among them does not resolve. The first one is told about. -/
theorem expandPieces_eq_error {pieces : List Piece} {fault : ConfigFault} :
    environment.expandPieces pieces = .error fault ↔
      ∃ r, environment.missing? (pieces.filterMap fun
        | .reference r => some r
        | .point _ => none) = some r ∧ fault = .unset r.name := by
  induction pieces with
  | nil => simp [expandPieces, missing?]
  | cons piece rest ih =>
    rw [expandPieces, Result.bind_bind_pure_eq_error, ih]
    cases piece with
    | point c => simp [expandPiece]
    | reference r =>
      change environment.resolve r = _ ∨ (∃ text, environment.resolve r = _) ∧ _ ↔ _
      rw [resolve_eq_error, exists_resolve_eq_ok, List.filterMap_cons]
      -- Either this reference is missing, or the first one behind it is.
      by_cases resolves : environment.Resolves r <;> simp [missing?, resolves]

/-- Nor can a text be, with the same one told about. -/
theorem expandText_eq_error {text : Text} {fault : ConfigFault} :
    environment.expandText text = .error fault ↔
      ∃ r, environment.missing? (Value.textReferences text) = some r ∧ fault = .unset r.name :=
  expandPieces_eq_error

/-- What is missing among some references is one of them, and does not resolve. -/
theorem mem_of_missing? {references : List Reference} {r : Reference}
    (missing : environment.missing? references = some r) : r ∈ references ∧ ¬ environment.Resolves r :=
  ⟨List.mem_of_find?_eq_some missing, by simpa using List.find?_some missing⟩

mutual

/-- Expanding a value fails for a missing variable, or because there is no room for it. -/
theorem expandWithin_eq_error {room : Nat} {v : Value}
    (failed : environment.expandWithin room v = .error failure) :
    (∃ r ∈ v.references, ¬ environment.Resolves r ∧ failure = .config (.unset r.name)) ∨
      failure = .tooDeep := by
  unfold expandWithin at failed
  split at failed
  · obtain ⟨fault, lost, rfl⟩ := Result.mapError_eq_error.mp failed
    obtain ⟨r, missing, rfl⟩ := expandText_eq_error.mp (Result.map_eq_error.mp lost)
    obtain ⟨inside, unset⟩ := mem_of_missing? missing
    exact .inl ⟨r, inside, unset, rfl⟩
  · exact expandItemsWithin_eq_error (Result.map_eq_error.mp failed)
  · exact expandEntriesWithin_eq_error (Result.map_eq_error.mp failed)
  -- There is no room left, or a list or mapping stands inside itself.
  iterate 4
    cases failed
    exact .inr rfl
  · cases failed

/-- So it does for items. -/
theorem expandItemsWithin_eq_error {room : Nat} {items : List Value}
    (failed : environment.expandItemsWithin room items = .error failure) :
    (∃ r ∈ Value.itemReferences items, ¬ environment.Resolves r ∧ failure = .config (.unset r.name)) ∨
      failure = .tooDeep := by
  -- The first item that fails is the one that the list fails with.
  match items with
  | [] => cases failed
  | item :: rest =>
    rw [expandItemsWithin] at failed
    rcases Result.bind_eq_error.mp failed with failed | ⟨_, _, failed⟩
    · exact (expandWithin_eq_error failed).imp_left fun ⟨r, inside, unset⟩ =>
        ⟨r, List.mem_append_left _ inside, unset⟩
    · exact (expandItemsWithin_eq_error (Result.bind_pure_eq_error.mp failed)).imp_left
        fun ⟨r, inside, unset⟩ => ⟨r, List.mem_append_right _ inside, unset⟩

/-- So it does for entries. -/
theorem expandEntriesWithin_eq_error {room : Nat} {entries : List (Value × Value)}
    (failed : environment.expandEntriesWithin room entries = .error failure) :
    (∃ r ∈ Value.entryReferences entries, ¬ environment.Resolves r ∧ failure = .config (.unset r.name)) ∨
      failure = .tooDeep := by
  match entries with
  | [] => cases failed
  | (key, value) :: rest =>
    rw [expandEntriesWithin] at failed
    rcases Result.bind_eq_error.mp failed with failed | ⟨_, _, failed⟩
    · exact (expandWithin_eq_error failed).imp_left fun ⟨r, inside, unset⟩ =>
        ⟨r, List.mem_append_left _ inside, unset⟩
    · exact (expandEntriesWithin_eq_error (Result.bind_pure_eq_error.mp failed)).imp_left
        fun ⟨r, inside, unset⟩ => ⟨r, List.mem_append_right _ inside, unset⟩

end

/-- A value in which no variable is missing is too deep if it stands inside itself or there is no room for
its levels. -/
theorem expandWithin_eq_tooDeep {room : Nat} {v : Value}
    (resolves : ∀ r ∈ v.references, environment.Resolves r)
    (deep : ¬ (v.isTraversable = true ∧ v.levels ≤ room)) :
    environment.expandWithin room v = .error .tooDeep := by
  cases result : environment.expandWithin room v with
  | ok expanded =>
    obtain ⟨ends, fits, _⟩ := (exists_expandWithin_eq_ok room v).mp ⟨expanded, result⟩
    exact absurd ⟨ends, fits⟩ deep
  | error failure =>
    rcases expandWithin_eq_error result with ⟨r, inside, unset, _⟩ | rfl
    · exact absurd (resolves r inside) unset
    · rfl

mutual

/-- If one comes to an end who goes through a value, and there is room for its levels, expanding it fails only
for a missing variable. It is the first one on the way. -/
theorem expandWithin_eq_error_iff {room : Nat} {v : Value} (ends : v.isTraversable = true)
    (fits : v.levels ≤ room) : environment.expandWithin room v = .error failure ↔
      -- Only texts can lack a variable, and those in a list or a mapping are looked at in their order.
      ∃ r, environment.missing? v.references = some r ∧ failure = .config (.unset r.name) := by
  cases v with
  | text s =>
    simp only [expand_text_eq_error, expandText_eq_error, Value.references]
    constructor
    · rintro ⟨_, ⟨r, missing, rfl⟩, rfl⟩
      exact ⟨r, missing, rfl⟩
    · rintro ⟨r, missing, rfl⟩
      exact ⟨_, ⟨r, missing, rfl⟩, rfl⟩
  | list items =>
    cases room with
    | zero => exact absurd fits (Nat.not_succ_le_zero _)
    | succ room =>
      rw [expandWithin, Result.map_eq_error, Value.references]
      exact expandItemsWithin_eq_error_iff ends (Nat.le_of_succ_le_succ fits)
  | map entries =>
    cases room with
    | zero => exact absurd fits (Nat.not_succ_le_zero _)
    | succ room =>
      rw [expandWithin, Result.map_eq_error, Value.references]
      exact expandEntriesWithin_eq_error_iff ends (Nat.le_of_succ_le_succ fits)
  | again kind =>
    cases kind with
    | list | map => cases ends
    | _ => simp [expandWithin, Value.references, missing?]
  | _ => simp [expandWithin, Value.references, missing?]

/-- The same for items. -/
theorem expandItemsWithin_eq_error_iff {room : Nat} {items : List Value}
    (ends : Value.areTraversable items = true) (fits : Value.itemLevels items ≤ room) :
    environment.expandItemsWithin room items = .error failure ↔
      ∃ r, environment.missing? (Value.itemReferences items) = some r ∧
        failure = .config (.unset r.name) := by
  match items with
  | [] => exact ⟨nofun, by rintro ⟨_, ⟨⟩, _⟩⟩
  | item :: rest =>
    -- The bounds and the ends of the whole are those of the first item and of the others.
    rw [Value.areTraversable, Bool.and_eq_true] at ends
    rw [Value.itemLevels, Nat.max_le] at fits
    rw [expandItemsWithin, Result.bind_bind_pure_eq_error, exists_expandWithin_eq_ok,
      expandWithin_eq_error_iff ends.1 fits.1, expandItemsWithin_eq_error_iff ends.2 fits.2,
      Value.itemReferences]
    simp only [missing?_append, ends.1, fits.1, true_and, or_and_right, exists_or, and_assoc,
      exists_and_left]

/-- The same for entries. -/
theorem expandEntriesWithin_eq_error_iff {room : Nat} {entries : List (Value × Value)}
    (ends : Value.areEntriesTraversable entries = true) (fits : Value.entryLevels entries ≤ room) :
    environment.expandEntriesWithin room entries = .error failure ↔
      ∃ r, environment.missing? (Value.entryReferences entries) = some r ∧
        failure = .config (.unset r.name) := by
  match entries with
  | [] => exact ⟨nofun, by rintro ⟨_, ⟨⟩, _⟩⟩
  | (key, value) :: rest =>
    rw [Value.areEntriesTraversable, Bool.and_eq_true] at ends
    -- As for items.
    rw [Value.entryLevels, Nat.max_le] at fits
    rw [expandEntriesWithin, Result.bind_bind_pure_eq_error, exists_expandWithin_eq_ok,
      expandWithin_eq_error_iff ends.1 fits.1, expandEntriesWithin_eq_error_iff ends.2 fits.2,
      Value.entryReferences]
    simp only [missing?_append, ends.1, fits.1, true_and, or_and_right, exists_or, and_assoc,
      exists_and_left]

end

end Failing

/--
What becomes of a value when its references to the environment are replaced, where lists and mappings are gone
into at most `room` levels deep. One has to come to an end who goes through its lists and mappings, and they
may not nest deeper than that.

Each text is read by the grammar of references, in the only way that there is. If one of the references in
the value has neither a variable nor a fallback, replacing fails, and it is told which variable is the first
one missing on the way through the value. Otherwise a value of the same shape comes of it: lists keep their
length and mappings their keys, what is no text stays, and in the texts every reference gives way to what it
stands for, which is not read again.
-/
theorem expand_follows (environment : Environment) (room : Nat) {v : Value} (ends : v.isTraversable = true)
    (fits : v.levels ≤ room) :
    (∀ text pieces, Piece.Reads text pieces ↔ Piece.ofText text = pieces) ∧
      ((∃ fault, environment.expandWithin room v = .error (.config fault)) ↔
        ∃ r, v.Refers r ∧ ¬ environment.Resolves r) ∧
      (∀ failure, environment.expandWithin room v = .error failure ↔
        ∃ r, environment.missing? v.references = some r ∧ failure = .config (.unset r.name) ∧
          failure.message = "Environment variable '" ++ r.name ++ "' is not set") ∧
      ((∀ r, v.Refers r → environment.Resolves r) →
        ∃ result, environment.expandWithin room v = .ok result) ∧
      ∀ result, environment.expandWithin room v = .ok result ↔ environment.Replaces v result := by
  refine ⟨fun _ _ => Piece.reads_iff, ?_, ?_, ?_, fun _ => ?_⟩
  · -- There is a first missing one exactly when there is one at all.
    have some : (∃ r, v.Refers r ∧ ¬ environment.Resolves r) ↔
        ∃ r, environment.missing? v.references = some r := by
      rw [← Option.ne_none_iff_exists', Ne, missing?_eq_none]
      simp [Value.mem_references]
    rw [some]
    constructor
    · rintro ⟨fault, failed⟩
      obtain ⟨r, missing, _⟩ := (expandWithin_eq_error_iff ends fits).mp failed
      exact ⟨r, missing⟩
    · rintro ⟨r, missing⟩
      exact ⟨_, (expandWithin_eq_error_iff ends fits).mpr ⟨r, missing, rfl⟩⟩
  · -- The message is that of the fault, so the rest is the same statement.
    intro failure
    rw [expandWithin_eq_error_iff ends fits]
    constructor
    · rintro ⟨r, missing, rfl⟩
      exact ⟨r, missing, rfl, rfl⟩
    · rintro ⟨r, missing, same, _⟩
      exact ⟨r, missing, same⟩
  · intro resolves
    exact (exists_expandWithin_eq_ok room v).mpr
      ⟨ends, fits, fun r inside => resolves r ((Value.mem_references v).mp inside)⟩
  · rw [expandWithin_eq_ok]
    exact and_iff_right fits

/-- A list and a text under two keys, with a fallback that looks like the beginning of a reference. -/
def nestedValue : Value :=
  .map [(.text "a", .list [.text "$\x7bA:-$\x7bB\x7dy", .int 5]), (.text "b", .text "<$\x7bC\x7d>")]

/-- There is just enough room for two levels. Where the variable of the second text is missing, it is told
about. Where it is set, its text is not read again, and the first variable is replaced by nothing, since its
text is empty. -/
theorem expand_follows_nested :
    nestedValue.isTraversable = true ∧ nestedValue.levels ≤ 2 ∧
      (Environment.ofList [("A", "")]).expandWithin 2 nestedValue = .error (.config (.unset "C")) ∧
      (Environment.ofList [("A", ""), ("C", "$\x7bA\x7d")]).Replaces nestedValue
        (.map [(.text "a", .list [.text "y", .int 5]), (.text "b", .text "<$\x7bA\x7d>")]) := by
  -- The depth is two, and of its three references one has no variable in the first environment.
  have ends : nestedValue.isTraversable = true := rfl
  have fits : nestedValue.levels ≤ 2 := by decide
  have missing : (Environment.ofList [("A", "")]).missing? nestedValue.references =
      some { name := "C", fallback := none } := by decide +kernel
  obtain ⟨_, _, fails, _⟩ := expand_follows (Environment.ofList [("A", "")]) 2 ends fits
  obtain ⟨_, _, _, _, succeeds⟩ :=
    expand_follows (Environment.ofList [("A", ""), ("C", "$\x7bA\x7d")]) 2 ends fits
  exact ⟨ends, fits, (fails _).mpr ⟨_, missing, rfl, rfl⟩,
    (succeeds _).mp (Value.eq_ok_of_isSurely (by decide +kernel))⟩

/-- A document in which a list holds itself. -/
def loopContent : List UInt8 :=
  "\x7b\"server\":\x7b\"endpoints\":[\"a\"]\x7d,\"loop\":&x [*x ]\x7d".toUTF8.toList

/-- Its value. -/
def loopValue : Value :=
  .map [(.text "server", .map [(.text "endpoints", .texts ["a"])]), (.text "loop", .list [.again .list])]

/-- There is no reference in this document. Replacing references fails, but not for a missing variable, and
there is no value that it could have come to, however much room there is. -/
theorem expand_loop :
    Config.readDocument (Path.ofText "kms.yaml").text loopContent = .ok loopValue ∧
      (¬ ∃ r, loopValue.Refers r ∧ ¬ (Environment.ofList []).Resolves r) ∧
      (Environment.ofList []).expand loopValue = .error .tooDeep ∧
      ¬ ∃ result, (Environment.ofList []).Replaces loopValue result := by
  have read : Config.readDocument (Path.ofText "kms.yaml").text loopContent = .ok loopValue :=
    Value.eq_ok_of_isSurely (by decide +kernel)
  have plain : loopValue.references = [] := by decide +kernel
  have fits : loopValue.levels ≤ levelLimit := by decide
  have failed : (Environment.ofList []).expand loopValue = .error .tooDeep :=
    expandWithin_eq_tooDeep (by simp [plain]) (by decide)
  refine ⟨read, ?_, failed, ?_⟩
  · -- There is no reference in the value at all.
    rintro ⟨r, refers, _⟩
    have inside := (Value.mem_references loopValue).mpr refers
    rw [plain] at inside
    cases inside
  · -- Replacing would bring the walk to an end.
    rintro ⟨result, replaces⟩
    cases failed.symm.trans (expandWithin_eq_ok.mpr ⟨fits, replaces⟩)

end Environment

end KeyCluster

import KeyCluster.Log.Setup
import KeyCluster.Proofs.Failure.Result

/-! Which settings a log can be set up with, and which level it has then. -/

namespace KeyCluster

namespace Level

/-- The standard levels, by name. -/
def standard : List (Text × Level) :=
  [("CRITICAL", 50), ("FATAL", 50), ("ERROR", 40), ("WARNING", 30), ("WARN", 30), ("INFO", 20),
    ("DEBUG", 10), ("NOTSET", 0)]

/-- Names that stand for something, though not for a level. -/
def misleading : List Text :=
  ["BASIC_FORMAT", "_STYLES"]

/-- The level that a text names in letters of any case, or that of the normal course if it names none. -/
def standardOf (text : Text) : Level :=
  (standard.lookup (Upper.capitals text)).getD 20

variable {text : Text}

/-- A text that names no level is told apart from one with a misleading name. -/
theorem ofValue_of_not_mem (plain : Upper.capitals text ∉ misleading) :
    ofValue (.text text) = .ok (standardOf text) := by
  unfold ofValue standardOf
  dsimp only
  generalize Upper.capitals text = name at *
  -- A name that stands for nothing has no entry in either table.
  by_cases known : name ∈ LevelName.table.map Prod.fst
  · -- The names of the table are looked at one by one.
    simp only [LevelName.table, named, List.map_cons, List.map_nil, List.mem_cons, List.not_mem_nil,
      or_false] at known
    rcases known with rfl | rfl | rfl | rfl | rfl | rfl | rfl | rfl | rfl | rfl
    case inr.inr.inl | inr.inr.inr.inl => exact absurd plain (by decide)
    all_goals rfl
  · have unknown : LevelName.table.lookup name = none := by
      refine List.lookup_eq_none_iff.mpr fun entry inside => bne_iff_ne.mpr ?_
      rintro rfl
      exact known (List.mem_map_of_mem inside)
    have strange : standard.lookup name = none := by
      have listed : ∀ entry ∈ standard, entry.1 ∈ LevelName.table.map Prod.fst := by decide
      refine List.lookup_eq_none_iff.mpr fun entry inside => bne_iff_ne.mpr ?_
      rintro rfl
      exact known (listed entry inside)
    rw [unknown, strange]
    rfl

/-- A misleading name is no level. -/
theorem ofValue_of_mem (misled : Upper.capitals text ∈ misleading) :
    ∃ fault, ofValue (.text text) = .error (.log fault) := by
  unfold ofValue
  dsimp only
  generalize Upper.capitals text = name at *
  -- There are two such names, and both stand for something that is no level.
  simp only [misleading, List.mem_cons, List.not_mem_nil, or_false] at misled
  rcases misled with rfl | rfl
  · exact ⟨_, rfl⟩
  · exact ⟨_, rfl⟩

/-- A value stands for a level exactly when it is a text without a misleading name. -/
theorem ofValue_eq_ok {v : Value} {level : Level} : ofValue v = .ok level ↔
    ∃ text, v = .text text ∧ Upper.capitals text ∉ misleading ∧ level = standardOf text := by
  constructor
  · intro found
    -- Values of other shapes have no capitals, so they are no levels.
    cases v with
    | text s =>
      by_cases misled : Upper.capitals s ∈ misleading
      · obtain ⟨_, failed⟩ := ofValue_of_mem misled
        cases failed.symm.trans found
      · cases (ofValue_of_not_mem misled).symm.trans found
        exact ⟨s, rfl, misled, rfl⟩
    | _ => cases found
  · rintro ⟨text, rfl, plain, rfl⟩
    exact ofValue_of_not_mem plain

end Level

/-- A log can be set up exactly where there is a level, which becomes its threshold. -/
theorem LogSetup.exists_ofSettings {settings : LogSettings} {threshold : Level} :
    (∃ log, ofSettings settings = .ok log ∧ log.threshold = threshold) ↔
      Level.ofValue settings.level = .ok threshold := by
  constructor
  · rintro ⟨log, made, rfl⟩
    -- Only the level can fail to be one.
    obtain ⟨threshold, found, made⟩ := Result.bind_eq_ok.mp made
    cases made
    exact found
  · intro found
    exact ⟨_, Result.bind_eq_ok.mpr ⟨threshold, found, rfl⟩, rfl⟩

end KeyCluster

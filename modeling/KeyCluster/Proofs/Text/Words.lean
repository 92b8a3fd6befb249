import KeyCluster.Text.Blank
import Mathlib.Tactic.Basic

/-! A sequence that is put together from words and separators falls apart into the same words. -/

namespace KeyCluster

namespace Blank

variable {α : Type} {separator : α → Bool} {gap text word : List α}

/-- The pieces of a sequence are those between its separators. -/
theorem pieces_eq_splitOnP (text : List α) : pieces separator text = text.splitOnP separator := by
  induction text with
  | nil => rfl
  | cons c rest ih =>
    rw [pieces, ih, List.splitOnP_cons_eq_if_modifyHead]
    -- There is always a first piece, which an item that is no separator goes to.
    cases pieces : rest.splitOnP separator with
    | nil => exact absurd pieces (List.splitOnP_ne_nil _ _)
    | cons => rfl

/-- Between the separators of a sequence stands everything else. -/
theorem flatten_words (text : List α) :
    (words separator text).flatten = text.filter fun c => !separator c := by
  -- The empty pieces add nothing, so it is enough to look at all pieces.
  have pieced : (pieces separator text).flatten = text.filter fun c => !separator c := by
    induction text with
    | nil => rfl
    | cons c rest ih =>
      rw [pieces, List.filter_cons, ← ih]
      cases separator c with
      | true => rfl
      | false => cases pieces separator rest <;> rfl
  rw [words, List.flatten_filter_not_isEmpty, pieced]

/-- A word is not empty, and there is no separator in it. -/
theorem mem_words (inside : word ∈ words separator text) :
    word ≠ [] ∧ ∀ c ∈ word, separator c = false := by
  refine ⟨by simpa using (List.mem_filter.mp inside).2, fun c here => ?_⟩
  have between := List.mem_flatten_of_mem inside here
  rw [flatten_words, List.mem_filter] at between
  simpa using between.2

/-- There are words unless there are only separators. -/
theorem words_ne_nil_iff : words separator text ≠ [] ↔ ∃ c ∈ text, separator c = false := by
  have between : (words separator text).flatten = _ := flatten_words text
  constructor
  · -- A word is not empty, and nothing in it is a separator.
    intro some
    obtain ⟨word, rest, same⟩ := List.exists_cons_of_ne_nil some
    have isWord : word ∈ words separator text := by simp [same]
    obtain ⟨given, clear⟩ := mem_words isWord
    obtain ⟨c, _, rfl⟩ := List.exists_cons_of_ne_nil given
    rw [same] at between
    have here : c ∈ text.filter fun c => !separator c := by simp [← between]
    exact ⟨c, (List.mem_filter.mp here).1, clear c (by simp)⟩
  · -- Without a word nothing is left when the separators are dropped.
    rintro ⟨c, inside, clear⟩ none
    rw [none] at between
    have here : c ∈ text.filter fun c => !separator c := List.mem_filter.mpr ⟨inside, by simp [clear]⟩
    rw [← between] at here
    cases here

/-- Separators in front of a sequence do not count. -/
theorem words_append_of_gap (separates : ∀ c ∈ gap, separator c = true) :
    words separator (gap ++ text) = words separator text := by
  induction gap with
  | nil => rfl
  | cons c rest ih =>
    obtain ⟨here, behind⟩ := List.forall_mem_cons.mp separates
    -- A separator in front begins an empty piece, which is no word.
    rw [← ih behind, List.cons_append, words, pieces, if_pos here]
    rfl

/-- A word in front of a sequence that does not go on with it stands for itself. -/
theorem words_append_of_word (some : word ≠ []) (whole : ∀ c ∈ word, separator c = false)
    (apart : ∀ c ∈ text.head?, separator c = true) :
    words separator (word ++ text) = word :: words separator text := by
  have kept : word.isEmpty = false := by simpa using some
  -- Either nothing follows the word, or a separator does.
  cases text with
  | nil =>
    rw [List.append_nil, words, pieces_eq_splitOnP, List.splitOnP_eq_singleton whole]
    simp [kept, words, pieces]
  | cons c rest =>
    have here : separator c = true := apart c rfl
    rw [words, pieces_eq_splitOnP, List.splitOnP_append_cons_of_forall_mem whole c here]
    simp [kept, words, pieces, here, pieces_eq_splitOnP]

end Blank

/-- A word with the separators behind it. -/
structure SpacedWord {α : Type} (separator : α → Bool) where
  word : List α
  gap : List α
  given : word ≠ []
  whole : ∀ c ∈ word, separator c = false
  separates : ∀ c ∈ gap, separator c = true

/-- Words with separators in front of them, between them, and behind the last one. -/
structure Spacing {α : Type} (separator : α → Bool) where
  /-- What stands in front of the words. -/
  front : List α
  parts : List (SpacedWord separator)
  clear : ∀ c ∈ front, separator c = true
  /-- No two words run together. -/
  apart : ∀ part ∈ parts.dropLast, part.gap ≠ []

namespace Spacing

variable {α : Type} {separator : α → Bool}

/-- The words. -/
def words (spacing : Spacing separator) : List (List α) :=
  spacing.parts.map SpacedWord.word

/-- The words and what stands around them, put together. -/
def text (spacing : Spacing separator) : List α :=
  spacing.front ++ spacing.parts.flatMap fun part => part.word ++ part.gap

/-- What follows a word begins with a separator, since there is one in front of every other word. -/
theorem head_separates {part : SpacedWord separator} {rest : List (SpacedWord separator)}
    (apart : ∀ other ∈ (part :: rest).dropLast, other.gap ≠ []) :
    ∀ c ∈ (part.gap ++ rest.flatMap fun other => other.word ++ other.gap).head?, separator c = true := by
  intro c first
  cases same : part.gap with
  | cons d others =>
    rw [same] at first
    cases first
    exact part.separates c (by simp [same])
  | nil =>
    -- Then there is no other word.
    cases rest with
    | nil => simp [same] at first
    | cons => exact absurd same (apart part (by simp))

/-- Words that are apart are found again in what is put together from them. -/
theorem words_flatMap {parts : List (SpacedWord separator)}
    (apart : ∀ part ∈ parts.dropLast, part.gap ≠ []) :
    Blank.words separator (parts.flatMap fun part => part.word ++ part.gap) =
      parts.map SpacedWord.word := by
  induction parts with
  | nil => rfl
  | cons part rest ih =>
    -- Between two parts there is a gap, also among those behind the first one.
    have behind : ∀ other ∈ rest.dropLast, other.gap ≠ [] := by
      intro other inside
      cases rest with
      | nil => cases inside
      | cons => exact apart other (List.mem_cons_of_mem _ inside)
    rw [List.flatMap_cons, List.append_assoc,
      Blank.words_append_of_word part.given part.whole (head_separates apart),
      Blank.words_append_of_gap part.separates, ih behind, List.map_cons]

/-- What is put together from words and separators has these words. -/
theorem words_text (spacing : Spacing separator) : Blank.words separator spacing.text = spacing.words := by
  rw [text, Blank.words_append_of_gap spacing.clear, words_flatMap spacing.apart, words]

end Spacing

end KeyCluster

import KeyCluster.Proofs.Text.Words

/-! The words of a sequence are its maximal runs without a separator: nothing else is lost, and nothing that
stands together is torn apart. -/

namespace KeyCluster

namespace Blank

variable {α : Type} {separator : α → Bool} {c d : α} {front rest text : List α}

/-- A separator in front of a sequence does not count. -/
theorem words_cons_of_separator (separates : separator c = true) :
    words separator (c :: text) = words separator text :=
  have clear : ∀ d ∈ [c], separator d = true := by simpa using separates
  words_append_of_gap clear

/-- What stands alone in front of a separator, or of nothing, is a word. -/
theorem words_cons_of_apart (clear : separator c = false)
    (apart : ∀ d ∈ text.head?, separator d = true) :
    words separator (c :: text) = [c] :: words separator text :=
  have whole : ∀ d ∈ [c], separator d = false := by simpa using clear
  words_append_of_word (List.cons_ne_nil _ _) whole apart

/-- What stands in front of a word belongs to it. -/
theorem words_cons_of_beside (clear : separator c = false) (beside : separator d = false) (rest : List α) :
    ∃ word others, words separator (d :: rest) = (d :: word) :: others ∧
      words separator (c :: d :: rest) = (c :: d :: word) :: others := by
  -- There is always a first piece, which both of them go to.
  cases found : pieces separator rest with
  | nil => exact ⟨[], [], by simp [words, pieces, clear, beside, found]⟩
  | cons piece others =>
    exact ⟨piece, others.filter fun piece => !piece.isEmpty,
      by simp [words, pieces, clear, beside, found]⟩

/-- Two items side by side that are no separators stand side by side in one word. Before them in the words
is what stands in front of them in the sequence, and behind them what follows there. -/
theorem exists_word_of_beside (clear : separator c = false) (beside : separator d = false)
    (front rest : List α) :
    ∃ before start ending after,
      words separator (front ++ c :: d :: rest) = before ++ (start ++ c :: d :: ending) :: after ∧
        before.flatten ++ start = (front.filter fun c => !separator c) ∧
        ending ++ after.flatten = rest.filter fun c => !separator c := by
  -- What stands in front is taken off item by item.
  induction front with
  | nil =>
    -- The two items begin the first word, and all the rest is behind them.
    obtain ⟨word, others, _, found⟩ := words_cons_of_beside clear beside rest
    have complete : (words separator (c :: d :: rest)).flatten = _ := flatten_words (c :: d :: rest)
    rw [found] at complete
    exact ⟨[], [], word, others, found, rfl, by simpa [clear, beside] using complete⟩
  | cons x front ih =>
    obtain ⟨before, start, ending, after, found, ahead, behind⟩ := ih
    cases isSeparator : separator x with
    | true =>
      refine ⟨before, start, ending, after, ?_, ?_, behind⟩
      · rw [List.cons_append, words_cons_of_separator isSeparator, found]
      · rw [ahead, List.filter_cons_of_neg (by simp [isSeparator])]
    | false =>
      have kept : ((x :: front).filter fun c => !separator c) =
          x :: front.filter fun c => !separator c :=
        List.filter_cons_of_pos (by simp [isSeparator])
      rw [kept, ← ahead]
      -- Either a word of its own begins and ends with this item, or it goes to the word behind it.
      by_cases apart : ∀ y ∈ (front ++ c :: d :: rest).head?, separator y = true
      · refine ⟨[x] :: before, start, ending, after, ?_, rfl, behind⟩
        rw [List.cons_append, words_cons_of_apart isSeparator apart, found, List.cons_append]
      · obtain ⟨y, others, same⟩ : ∃ y others, front ++ c :: d :: rest = y :: others :=
          List.exists_cons_of_ne_nil (by simp)
        have next : separator y = false := by
          rw [same] at apart
          simpa using apart
        obtain ⟨word, others', first, glued⟩ := words_cons_of_beside isSeparator next others
        rw [← same] at first glued
        rw [found] at first
        -- The word behind it is the first one, which may be the one with the two items.
        cases before with
        | nil =>
          obtain ⟨same, rfl⟩ := List.cons.inj first
          refine ⟨[], x :: start, ending, after, ?_, rfl, behind⟩
          rw [List.cons_append, glued, ← same]
          rfl
        | cons head before =>
          obtain ⟨rfl, rfl⟩ := List.cons.inj first
          refine ⟨(x :: y :: word) :: before, start, ending, after, ?_, rfl, behind⟩
          rw [List.cons_append, glued]
          rfl

end Blank

namespace SpacedWord

variable {α : Type} {separator : α → Bool}

/-- An item as a word of its own. -/
def ofItem (c : α) (gap : List α) (clear : separator c = false) (separates : ∀ d ∈ gap, separator d = true) :
    SpacedWord separator :=
  ⟨[c], gap, by simp, by simpa using clear, separates⟩

/-- A word with an item in front of it. -/
def cons (c : α) (part : SpacedWord separator) (clear : separator c = false) : SpacedWord separator :=
  ⟨c :: part.word, part.gap, by simp, by simpa [clear] using part.whole, part.separates⟩

end SpacedWord

/-- Every sequence is put together from words and separators. -/
theorem Spacing.exists_text {α : Type} (separator : α → Bool) (text : List α) :
    ∃ spacing : Spacing separator, spacing.text = text := by
  -- An item in front goes to the separators, begins a word, or goes to the word behind it.
  induction text with
  | nil => exact ⟨⟨[], [], by simp, by simp⟩, rfl⟩
  | cons c text ih =>
    obtain ⟨⟨front, parts, clear, apart⟩, rfl⟩ := ih
    cases here : separator c with
    | true => exact ⟨⟨c :: front, parts, by simpa [here] using clear, apart⟩, rfl⟩
    | false =>
      cases front with
      | cons d front =>
        -- The item is a word of its own, in front of the separators.
        refine ⟨⟨[], .ofItem c (d :: front) here clear :: parts, by simp, ?_⟩,
          by simp [Spacing.text, SpacedWord.ofItem]⟩
        intro part inside
        cases parts with
        | nil => cases inside
        | cons next parts =>
          rcases List.mem_cons.mp inside with rfl | inside
          · exact List.cons_ne_nil _ _
          · exact apart part inside
      | nil =>
        cases parts with
        | nil => exact ⟨⟨[], [.ofItem c [] here (by simp)], by simp, by simp⟩, rfl⟩
        | cons first parts =>
          -- The item goes to the word that it stands in front of.
          refine ⟨⟨[], first.cons c here :: parts, by simp, ?_⟩, rfl⟩
          intro part inside
          cases parts with
          | nil => cases inside
          | cons next parts =>
            rcases List.mem_cons.mp inside with rfl | inside
            · exact apart first (List.mem_cons_self ..)
            · exact apart part (List.mem_cons_of_mem _ inside)

/-- The maximal runs of a sequence without a separator. -/
structure AreRuns {α : Type} (separator : α → Bool) (text : List α) (runs : List (List α)) : Prop where
  /-- They stand in the sequence in this order, with separators around them and between any two of them. -/
  spaced : ∃ spacing : Spacing separator, spacing.text = text ∧ spacing.words = runs
  given : ∀ run ∈ runs, run ≠ []
  whole : ∀ run ∈ runs, ∀ c ∈ run, separator c = false
  /-- Together they are all that is no separator. -/
  complete : runs.flatten = text.filter fun c => !separator c
  /-- What stands side by side stands so in one of them, with the same before it and behind it. -/
  beside : ∀ front c d rest, text = front ++ c :: d :: rest → separator c = false → separator d = false →
    ∃ before start ending after, runs = before ++ (start ++ c :: d :: ending) :: after ∧
      before.flatten ++ start = (front.filter fun c => !separator c) ∧
      ending ++ after.flatten = rest.filter fun c => !separator c

/-- The words of a sequence are its maximal runs without a separator. -/
theorem Blank.areRuns_words {α : Type} (separator : α → Bool) (text : List α) :
    AreRuns separator text (words separator text) where
  spaced := by
    -- Every text is spaced somehow, and taking it apart gives the words of that spacing.
    obtain ⟨spacing, rfl⟩ := Spacing.exists_text separator text
    exact ⟨spacing, rfl, spacing.words_text.symm⟩
  given run inside := (mem_words inside).1
  whole run inside := (mem_words inside).2
  complete := flatten_words text
  beside := by
    rintro front c d rest rfl clear beside
    exact exists_word_of_beside clear beside front rest

end KeyCluster

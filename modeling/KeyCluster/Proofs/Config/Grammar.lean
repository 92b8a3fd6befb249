import KeyCluster.Config.Reference
import Mathlib.Data.List.TakeWhile
import Mathlib.Tactic.Basic

/-! The grammar of references, and the one way in which it takes a text apart. -/

namespace KeyCluster

namespace Reference

/-- What a reference begins with. -/
def opening : Text :=
  [.char '$', .char '\x7b']

/-- What a reference ends with. -/
def closing : CodePoint :=
  .char '\x7d'

/-- A text that a variable can be called by. -/
def IsName (name : Text) : Prop :=
  ∃ c rest, name = c :: rest ∧ isNameStart c = true ∧ ∀ d ∈ rest, isNameChar d = true

/-- The reference to a variable without a fallback, as it is written. -/
def written (name : Text) : Text :=
  opening ++ name ++ [closing]

/-- What stands behind the name of a reference: its fallback with a sign in front, if there is one. -/
def ending : Option Text → Text
  | none => []
  | some fallback => .char ':' :: .char '-' :: fallback

/-- A reference as it is written. -/
def text (r : Reference) : Text :=
  opening ++ r.name ++ ending r.fallback ++ [closing]

/-- A reference that can be written: it has a name, and nothing in its fallback closes it too early. -/
structure IsProper (r : Reference) : Prop where
  name : IsName r.name
  -- Line ends may stand in a fallback, and so may openings of other references.
  closed : ∀ fallback, r.fallback = some fallback → closing ∉ fallback

/-- A reference begins with its opening, whatever it refers to. -/
theorem opening_prefix (r : Reference) : opening <+: r.text := by
  simp only [text, List.append_assoc]
  exact List.prefix_append _ _

variable {name text after fallback : Text} {r : Reference}

/-- What stands in front of the first closing brace is found by looking for that brace. -/
theorem takeWhile_of_not_mem (closed : closing ∉ fallback) (after : Text) :
    (fallback ++ closing :: after).takeWhile (· != closing) = fallback := by
  -- Every code point in front is another one.
  have passes : ∀ c ∈ fallback, (c != closing) = true := fun c inside => by
    simpa using fun same : c = closing => closed (same ▸ inside)
  rw [List.takeWhile_append_of_pos passes]
  simp

/-- So is what stands behind it. -/
theorem dropWhile_of_not_mem (closed : closing ∉ fallback) (after : Text) :
    (fallback ++ closing :: after).dropWhile (· != closing) = closing :: after := by
  have passes : ∀ c ∈ fallback, (c != closing) = true := fun c inside => by
    simpa using fun same : c = closing => closed (same ▸ inside)
  rw [List.dropWhile_append_of_pos passes]
  simp

/-- What is found by looking for a closing brace is one. -/
theorem eq_append_of_dropWhile {c : CodePoint} (found : text.dropWhile (· != closing) = c :: after) :
    text = text.takeWhile (· != closing) ++ closing :: after := by
  -- The search stops at nothing else.
  have brace : c = closing := by
    have first := List.head?_dropWhile_not (· != closing) text
    rw [found] at first
    simpa using first
  calc text = text.takeWhile (· != closing) ++ text.dropWhile (· != closing) :=
        List.takeWhile_append_dropWhile.symm
    _ = text.takeWhile (· != closing) ++ closing :: after := by rw [found, brace]

/-- A reference is closed by what may stand behind its name. -/
theorem close?_eq_some : close? name text = some (r, after) ↔
    r.name = name ∧ (∀ fallback, r.fallback = some fallback → closing ∉ fallback) ∧
      text = ending r.fallback ++ closing :: after := by
  constructor
  · intro closed
    unfold close? at closed
    split at closed
    · -- The brace stands right behind the name.
      cases closed
      exact ⟨rfl, by simp, rfl⟩
    · rename_i tail
      split at closed
      · cases closed
      · -- The fallback goes up to the first brace.
        rename_i found
        cases closed
        refine ⟨rfl, ?_, ?_⟩
        · intro fallback same inside
          cases same
          simpa [closing] using List.mem_takeWhile_imp inside
        · exact congrArg (fun tail => CodePoint.char ':' :: .char '-' :: tail)
            (eq_append_of_dropWhile found)
    · cases closed
  · -- Written out, the reference is read back: up to the brace, or up to the first brace behind the fallback.
    rintro ⟨rfl, closed, rfl⟩
    obtain ⟨name, fallback⟩ := r
    cases fallback with
    | none => rfl
    | some fallback =>
      have left := dropWhile_of_not_mem (closed fallback rfl) after
      have taken := takeWhile_of_not_mem (closed fallback rfl) after
      unfold closing at left taken ⊢
      simp only [ending, List.cons_append, close?, left, taken]

/-- A name ends where a reference goes on behind it. -/
theorem takeWhile_isNameChar {chars : Text} (isName : ∀ c ∈ chars, isNameChar c = true)
    (fallback : Option Text) (after : Text) :
    (chars ++ (ending fallback ++ closing :: after)).takeWhile isNameChar = chars ∧
      (chars ++ (ending fallback ++ closing :: after)).dropWhile isNameChar =
        ending fallback ++ closing :: after := by
  rw [List.takeWhile_append_of_pos isName, List.dropWhile_append_of_pos isName]
  -- Neither the brace nor the sign in front of a fallback can belong to a name.
  have brace : isNameChar closing = false := by decide
  have sign : isNameChar (.char ':') = false := by decide
  cases fallback <;> simp [ending, brace, sign]

/-- A reference is read from a text exactly when it is written at its beginning. -/
theorem read?_eq_some : read? text = some (r, after) ↔ r.IsProper ∧ text = r.text ++ after := by
  constructor
  · intro found
    unfold read? at found
    split at found
    · rename_i c tail
      split at found
      · rename_i start
        obtain ⟨named, closed, behind⟩ := close?_eq_some.mp found
        -- The name is the longest stretch of code points that a name can have.
        refine ⟨⟨⟨c, tail.takeWhile isNameChar, named, start, fun d => List.mem_takeWhile_imp⟩, closed⟩, ?_⟩
        have parts : tail = tail.takeWhile isNameChar ++ (ending r.fallback ++ closing :: after) := by
          rw [← behind, List.takeWhile_append_dropWhile]
        rw [Reference.text, named]
        simpa [opening] using parts
      · cases found
    · cases found
  · rintro ⟨proper, rfl⟩
    obtain ⟨c, chars, named, start, isName⟩ := proper.name
    obtain ⟨taken, left⟩ := takeWhile_isNameChar isName r.fallback after
    have split : r.text ++ after =
        .char '$' :: .char '\x7b' :: c :: (chars ++ (ending r.fallback ++ closing :: after)) := by
      simp [Reference.text, opening, named]
    rw [split, read?, if_pos start, taken, left]
    exact close?_eq_some.mpr ⟨named, proper.closed, rfl⟩

/-- None is read when none is written there. -/
theorem read?_eq_none : read? text = none ↔ ∀ r : Reference, r.IsProper → ¬ r.text <+: text := by
  constructor
  · -- What is written in front would be read, and the other way round.
    rintro none r proper ⟨after, rfl⟩
    cases none.symm.trans (read?_eq_some.mpr ⟨proper, rfl⟩)
  · intro plain
    cases found : read? text with
    | none => rfl
    | some read =>
      obtain ⟨r, after⟩ := read
      obtain ⟨proper, same⟩ := read?_eq_some.mp found
      exact absurd ⟨after, same.symm⟩ (plain r proper)

end Reference

namespace Piece

variable {text rest : Text} {pieces : List Piece}

/-- What the grammar makes of a text from left to right. Wherever a reference is written it is read as a
whole, and the reading goes on behind it. Every other code point stands for itself. -/
inductive Reads : Text → List Piece → Prop
  /-- Nothing is left. -/
  | nil : Reads [] []
  /-- A reference is written here. -/
  | reference {r : Reference} {rest : Text} {pieces : List Piece} (proper : r.IsProper)
      (behind : Reads rest pieces) : Reads (r.text ++ rest) (.reference r :: pieces)
  /-- No reference is written here. -/
  | point {c : CodePoint} {rest : Text} {pieces : List Piece}
      (plain : ∀ r : Reference, r.IsProper → ¬ r.text <+: c :: rest) (behind : Reads rest pieces) :
      Reads (c :: rest) (.point c :: pieces)

/-- A reference that is written at the beginning of a text is its first piece. -/
theorem ofText_reference {r : Reference} (proper : r.IsProper) (rest : Text) :
    ofText (r.text ++ rest) = .reference r :: ofText rest := by
  have read : Reference.read? (r.text ++ rest) = some (r, rest) :=
    Reference.read?_eq_some.mpr ⟨proper, rfl⟩
  -- Something is written, since a reference begins with a dollar sign.
  obtain ⟨c, tail, same⟩ : ∃ c tail, r.text ++ rest = c :: tail := ⟨_, _, rfl⟩
  rw [same] at read ⊢
  rw [ofText]
  split
  · rename_i found
    cases read.symm.trans found
    rfl
  · rename_i found
    cases read.symm.trans found

/-- Otherwise its first code point is. -/
theorem ofText_point {c : CodePoint} (plain : ∀ r : Reference, r.IsProper → ¬ r.text <+: c :: rest) :
    ofText (c :: rest) = .point c :: ofText rest := by
  have read := Reference.read?_eq_none.mpr plain
  rw [ofText]
  -- The recursion asks whether a reference can be read here, which it cannot.
  split
  · rename_i found
    cases read.symm.trans found
  · rfl

/-- A text can be read in one way only, and this is how it is taken apart. -/
theorem reads_iff : Reads text pieces ↔ ofText text = pieces := by
  constructor
  · intro reads
    induction reads with
    | nil => rw [ofText]
    | reference proper _ ih => rw [ofText_reference proper, ih]
    | point plain _ ih => rw [ofText_point plain, ih]
  · rintro rfl
    -- Along the recursion of taking apart: whatever is read there is written there.
    induction text using ofText.induct with
    | case1 =>
      rw [ofText]
      exact .nil
    | case2 c rest r after found ih =>
      obtain ⟨proper, same⟩ := Reference.read?_eq_some.mp found
      rw [same, ofText_reference proper]
      exact .reference proper ih
    | case3 c rest found ih =>
      have plain := Reference.read?_eq_none.mp found
      rw [ofText_point plain]
      exact .point plain ih

/-- Each code point of a text in which no reference begins stands for itself. -/
theorem ofText_of_plain (plain : ¬ Reference.opening <:+: text) : ofText text = text.map .point := by
  apply reads_iff.mp
  induction text with
  | nil => exact .nil
  | cons c rest ih =>
    -- A reference written here would begin with an opening.
    have here : ∀ r : Reference, r.IsProper → ¬ r.text <+: c :: rest := fun r _ written =>
      plain ((r.opening_prefix.trans written).isInfix)
    exact .point here (ih fun inside => plain (inside.trans (List.suffix_cons c rest).isInfix))

/-- A reference that is written alone is the only piece. -/
theorem ofText_written {name : Text} (isName : Reference.IsName name) :
    ofText (Reference.written name) = [.reference { name, fallback := none }] := by
  have proper : Reference.IsProper { name, fallback := none } := ⟨isName, nofun⟩
  have alone := ofText_reference proper []
  rw [ofText, List.append_nil] at alone
  rw [← alone, Reference.text, Reference.written]
  simp only [Reference.ending, List.append_nil]

end Piece

end KeyCluster

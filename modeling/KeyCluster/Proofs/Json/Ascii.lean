import KeyCluster.Proofs.Failure.Result
import KeyCluster.Proofs.Json.Scalars

/-! What is written as JSON is printable ASCII, whatever it holds. -/

namespace KeyCluster

/-- A text of printable ASCII characters. -/
def Text.IsAscii (text : Text) : Prop :=
  ∀ point ∈ text, point.isIn Quoted.isPlainAscii = true

namespace Text

variable {a b text : Text} {c : Char} {characters : List Char}

/-- Nothing has to be checked in an empty text. -/
@[simp] theorem isAscii_nil : IsAscii [] := by
  intro point inside
  cases inside

/-- A text is checked from its first character on. -/
@[simp] theorem isAscii_cons : IsAscii (.char c :: text) ↔ Quoted.isPlainAscii c = true ∧ text.IsAscii :=
  List.forall_mem_cons

/-- Texts that are put together are checked one by one. -/
@[simp] theorem isAscii_append : (a ++ b).IsAscii ↔ a.IsAscii ∧ b.IsAscii :=
  List.forall_mem_append

/-- The text of some characters is checked by checking these. -/
theorem isAscii_ofChars :
    (ofChars characters).IsAscii ↔ ∀ c ∈ characters, Quoted.isPlainAscii c = true :=
  List.forall_mem_map

/-- The text of a string is checked by running through it. -/
theorem isAscii_ofString {s : String} (printable : s.toList.all Quoted.isPlainAscii = true) :
    (ofString s).IsAscii :=
  isAscii_ofChars.mpr (List.all_eq_true.mp printable)

/-- Texts with a separator between them are checked one by one. -/
theorem isAscii_intercalate {separator : Text} {parts : List Text} (between : separator.IsAscii)
    (each : ∀ part ∈ parts, part.IsAscii) : IsAscii (List.intercalate separator parts) := by
  -- Between any two parts there is the separator, so it is enough to look at one of each.
  induction parts with
  | nil => simp
  | cons part rest ih =>
    obtain ⟨here, behind⟩ := List.forall_mem_cons.mp each
    cases rest with
    | nil => simpa using here
    | cons next rest =>
      rw [List.intercalate_cons_cons, isAscii_append, isAscii_append]
      exact ⟨⟨here, between⟩, ih behind⟩

/-- The characters of a text in ASCII are the text again. -/
theorem ofChars_chars (ascii : text.IsAscii) : ofChars text.chars = text := by
  -- There is no surrogate in the text, and that is all that the way back could lose.
  induction text with
  | nil => rfl
  | cons point rest ih =>
    obtain ⟨here, behind⟩ := List.forall_mem_cons.mp ascii
    cases point with
    | char c => exact congrArg (CodePoint.char c :: ·) (ih behind)
    | surrogate => cases here

end Text

/-- Decimal digits are printable. -/
theorem isPlainAscii_of_isDigit {c : Char} (digit : c.isDigit = true) : Quoted.isPlainAscii c = true := by
  obtain ⟨low, high⟩ := Char.isDigit_iff_toNat.mp digit
  have zero : '0'.toNat = 0x30 := rfl
  have nine : '9'.toNat = 0x39 := rfl
  simp only [Quoted.isPlainAscii, Bool.and_eq_true, decide_eq_true_eq]
  omega

/-- So is what is written of a number in decimal digits. -/
theorem isPlainAscii_of_mem_toDigits {c : Char} {n : Nat} (inside : c ∈ Nat.toDigits 10 n) :
    Quoted.isPlainAscii c = true :=
  isPlainAscii_of_isDigit (Nat.isDigit_of_mem_toDigits (by decide) (by decide) inside)

/-- Hexadecimal digits are printable. -/
theorem isPlainAscii_of_mem_hexText {c : Char} {width n : Nat} (inside : c ∈ Digit.hexText width n) :
    Quoted.isPlainAscii c = true := by
  have digits : ∀ digit < 16, Quoted.isPlainAscii (Digit.hexDigit digit) = true := by decide
  -- The digits are written from the last one on.
  induction width generalizing n with
  | zero => cases inside
  | succ width ih =>
    rcases List.mem_append.mp inside with front | last
    · exact ih front
    · rw [List.mem_singleton.mp last]
      exact digits _ (Nat.mod_lt _ (by decide))

namespace Shortest

/-- A sign keeps a text printable. -/
theorem isAscii_withSign {negative : Bool} {text : Text} (ascii : text.IsAscii) :
    (withSign negative text).IsAscii := by
  cases negative with
  | false => exact ascii
  | true => exact Text.isAscii_cons.mpr ⟨rfl, ascii⟩

/-- The shortest decimal of a double consists of digits. -/
theorem isDigit_of_mem_decimal {mantissa : Nat} {exponent : Int} {c : Char}
    (inside : c ∈ (decimal mantissa exponent).digits) : c.isDigit = true := by
  -- Only zeros were taken from the end of the digits of a number.
  have written := List.mem_reverse.mp ((List.dropWhile_sublist _).subset (List.mem_reverse.mp inside))
  exact Nat.isDigit_of_mem_toDigits (by decide) (by decide) written

/-- A decimal in positions consists of digits and a point. -/
theorem isPlainAscii_of_mem_positional {d : Decimal} (digits : ∀ c ∈ d.digits, c.isDigit = true) :
    ∀ c ∈ positional d, Quoted.isPlainAscii c = true := by
  intro c inside
  unfold positional at inside
  dsimp only at inside
  have padding {count : Nat} (zero : c ∈ List.replicate count '0') : Quoted.isPlainAscii c = true := by
    rw [List.eq_of_mem_replicate zero]
    rfl
  -- In each of the three layouts a character is a digit, a zero that fills a place, or the point.
  split at inside
  · simp only [List.cons_append, List.mem_cons, List.mem_append] at inside
    rcases inside with rfl | rfl | zero | digit
    · rfl
    · rfl
    · exact padding zero
    · exact isPlainAscii_of_isDigit (digits c digit)
  · split at inside
    · simp only [List.mem_append, List.mem_cons, List.not_mem_nil, or_false] at inside
      rcases inside with (digit | zero) | rfl | rfl
      · exact isPlainAscii_of_isDigit (digits c digit)
      · exact padding zero
      · rfl
      · rfl
    · simp only [List.mem_append, List.mem_cons] at inside
      rcases inside with digit | rfl | digit
      · exact isPlainAscii_of_isDigit (digits c (List.mem_of_mem_take digit))
      · rfl
      · exact isPlainAscii_of_isDigit (digits c (List.mem_of_mem_drop digit))

/-- The exponent of a decimal consists of a sign and digits. -/
theorem isPlainAscii_of_mem_exponentText {exponent : Int} {c : Char} (inside : c ∈ exponentText exponent) :
    Quoted.isPlainAscii c = true := by
  -- The exponent has a sign, a zero where it would be too short, and digits.
  unfold exponentText at inside
  rcases List.mem_cons.mp inside with rfl | inside
  · split <;> rfl
  · split at inside
    · rcases List.mem_cons.mp inside with rfl | inside
      · rfl
      · exact isPlainAscii_of_mem_toDigits inside
    · exact isPlainAscii_of_mem_toDigits inside

/-- A decimal with an exponent consists of digits, a point, a letter and a sign. -/
theorem isPlainAscii_of_mem_scientific {d : Decimal} (digits : ∀ c ∈ d.digits, c.isDigit = true) :
    ∀ c ∈ scientific d, Quoted.isPlainAscii c = true := by
  intro c inside
  unfold scientific at inside
  simp only [List.mem_append, List.mem_cons] at inside
  rcases inside with (first | rest) | rfl | rest
  · exact isPlainAscii_of_isDigit (digits c (List.mem_of_mem_take first))
  · -- A point stands before the digits behind the first one, if there are any.
    split at rest
    · cases rest
    · rcases List.mem_cons.mp rest with rfl | digit
      · rfl
      · exact isPlainAscii_of_isDigit (digits c (List.mem_of_mem_drop digit))
  · rfl
  · exact isPlainAscii_of_mem_exponentText rest

/-- A double is written in printable characters, if the two words for what is no number are. -/
theorem isAscii_text {layout : Layout} (nan : layout.nan.IsAscii) (infinity : layout.infinity.IsAscii)
    (x : Float) : (text layout x).IsAscii := by
  have digits {mantissa : Nat} {exponent : Int} : ∀ c ∈ (decimal mantissa exponent).digits, c.isDigit = true :=
    fun _ => isDigit_of_mem_decimal
  -- What is no number has a text of its own, and of numbers the exponent decides how they are written.
  unfold text
  split
  · exact nan
  · exact isAscii_withSign infinity
  · exact isAscii_withSign (Text.isAscii_ofString rfl)
  · dsimp only
    split
    · exact isAscii_withSign (Text.isAscii_ofChars.mpr (isPlainAscii_of_mem_positional digits))
    · exact isAscii_withSign (Text.isAscii_ofChars.mpr (isPlainAscii_of_mem_scientific digits))

end Shortest

namespace Json

variable {v : Value} {text : Text}

/-- The escape of a code unit is printable. -/
theorem isPlainAscii_of_mem_unitText {c : Char} {unit : Nat} (inside : c ∈ unitText unit) :
    Quoted.isPlainAscii c = true := by
  simp only [unitText, List.mem_cons] at inside
  rcases inside with rfl | rfl | digit
  · rfl
  · rfl
  · exact isPlainAscii_of_mem_hexText digit

/-- A short escape ends with a printable character. -/
theorem isPlainAscii_of_short? {c e : Char} (known : short? e = some c) : Quoted.isPlainAscii e = true := by
  unfold short? at known
  split at known
  all_goals first | rfl | cases known

/-- A character inside a text is written in printable ones. -/
theorem isPlainAscii_of_mem_charText {c d : Char} (inside : d ∈ charText c) :
    Quoted.isPlainAscii d = true := by
  -- There are four ways to write a character, and each has ASCII only.
  have written := writtenForm_charText c
  generalize charText c = form at inside written
  cases written with
  | short known =>
    simp only [List.mem_cons, List.not_mem_nil, or_false] at inside
    rcases inside with rfl | rfl
    · rfl
    · exact isPlainAscii_of_short? known
  | plain _ _ shown =>
    rw [List.mem_singleton.mp inside, Quoted.isPlainAscii]
    simpa using shown
  | unit => exact isPlainAscii_of_mem_unitText inside
  | pair =>
    rcases List.mem_append.mp inside with high | low
    · exact isPlainAscii_of_mem_unitText high
    · exact isPlainAscii_of_mem_unitText low

/-- A text between double quotes is printable. -/
theorem isAscii_textForm (s : Text) : (textForm s).IsAscii := by
  refine Text.isAscii_ofChars.mpr fun c inside => ?_
  simp only [List.cons_append, List.mem_cons, List.mem_append, List.mem_flatMap, List.not_mem_nil,
    or_false] at inside
  -- The text is put between quotes, and what is in between comes from one code point each.
  rcases inside with rfl | ⟨point, _, inside⟩ | rfl
  · rfl
  · cases point with
    | char => exact isPlainAscii_of_mem_charText inside
    | surrogate => exact isPlainAscii_of_mem_unitText inside
  · rfl

/-- An integer is written in digits, perhaps with a sign. -/
theorem isAscii_intText (i : Int) : (Value.intText i).IsAscii :=
  Shortest.isAscii_withSign (Text.isAscii_ofChars.mpr fun _ => isPlainAscii_of_mem_toDigits)

/-- Forms between brackets are printable if the brackets and the forms are. -/
theorem isAscii_enclosed {opening closing : Text} {parts : List Text} (left : opening.IsAscii)
    (right : closing.IsAscii) (each : ∀ part ∈ parts, part.IsAscii) :
    (enclosed opening closing parts).IsAscii := by
  rw [enclosed, Text.isAscii_append, Text.isAscii_append]
  exact ⟨⟨left, Text.isAscii_intercalate (Text.isAscii_ofString rfl) each⟩, right⟩

/-- A value in a written form has this form. -/
theorem eq_of_write {write : Value → Text} (written : v.write write = .ok text) : text = write v := by
  unfold Value.write at written
  split at written <;> cases written
  rfl

/-- A value that holds others is written in two brackets. -/
theorem exists_room {opening closing : Text} {room : Nat} {forms : Nat → Except ValueFault (List Text)}
    (written : (do
      let room ← within room
      return enclosed opening closing (← forms room)) = .ok text) :
    ∃ inner parts, room = inner + 1 ∧ forms inner = .ok parts ∧ text = enclosed opening closing parts := by
  obtain ⟨inner, there, written⟩ := Result.bind_eq_ok.mp written
  obtain ⟨parts, walked, same⟩ := Result.bind_eq_ok.mp written
  cases same
  cases room with
  | zero => cases there
  -- Where there is no room, nothing is written.
  | succ room =>
    cases there
    exact ⟨inner, parts, rfl, walked, rfl⟩

mutual

/-- The form of a value is printable. -/
theorem isAscii_formWithin {v : Value} {text : Text} {room : Nat} (written : formWithin v room = .ok text) :
    text.IsAscii := by
  cases v with
  | null =>
    cases written
    exact Text.isAscii_ofString rfl
  | bool b =>
    cases written
    cases b <;> exact Text.isAscii_ofString rfl
  | int i =>
    rw [formWithin] at written
    rw [eq_of_write written]
    exact isAscii_intText i
  | float x =>
    cases written
    exact Shortest.isAscii_text (Text.isAscii_ofString rfl) (Text.isAscii_ofString rfl) x
  | text s =>
    cases written
    exact isAscii_textForm s
  | list items | tuple items =>
    rw [formWithin] at written
    obtain ⟨inner, parts, _, walked, rfl⟩ := exists_room written
    exact isAscii_enclosed (Text.isAscii_ofString rfl) (Text.isAscii_ofString rfl) (isAscii_formsWithin walked)
  | map entries =>
    rw [formWithin] at written
    obtain ⟨inner, parts, _, walked, rfl⟩ := exists_room written
    exact isAscii_enclosed (Text.isAscii_ofString rfl) (Text.isAscii_ofString rfl)
      (isAscii_entryFormsWithin walked)
  | again kind => cases written
  | bytes | date | moment | set =>
    -- What JSON has no form for is shown as a text.
    rw [formWithin] at written
    · obtain ⟨shown, _, written⟩ := Result.bind_eq_ok.mp written
      obtain ⟨_, _, same⟩ := Result.bind_eq_ok.mp written
      cases same
      exact isAscii_textForm shown
    all_goals nofun

/-- So are the forms of items. -/
theorem isAscii_formsWithin {items : List Value} {parts : List Text} {room : Nat}
    (written : formsWithin items room = .ok parts) : ∀ part ∈ parts, part.IsAscii := by
  match items with
  | [] =>
    cases written
    exact List.forall_mem_nil _
  | item :: rest =>
    rw [formsWithin] at written
    -- Items first, and then what is between them.
    obtain ⟨here, first, others, walked, rfl⟩ := Result.bind_bind_pure_eq_ok.mp written
    exact List.forall_mem_cons.mpr ⟨isAscii_formWithin first, isAscii_formsWithin walked⟩

/-- So are the forms of entries. -/
theorem isAscii_entryFormsWithin {entries : List (Value × Value)} {parts : List Text} {room : Nat}
    (written : entryFormsWithin entries room = .ok parts) : ∀ part ∈ parts, part.IsAscii := by
  match entries with
  | [] =>
    cases written
    exact List.forall_mem_nil _
  | (key, value) :: rest =>
    rw [entryFormsWithin] at written
    -- A name can be written whatever the key is, or else the whole cannot.
    obtain ⟨name, _, written⟩ := Result.bind_eq_ok.mp written
    obtain ⟨here, first, others, walked, rfl⟩ := Result.bind_bind_pure_eq_ok.mp written
    have between : Text.IsAscii ": " := Text.isAscii_ofString rfl
    refine List.forall_mem_cons.mpr ⟨?_, isAscii_entryFormsWithin walked⟩
    rw [Text.isAscii_append, Text.isAscii_append]
    exact ⟨⟨isAscii_textForm name, between⟩, isAscii_formWithin first⟩

end

/-- What is written as JSON is printable. -/
theorem isAscii_form (written : form v = .ok text) : text.IsAscii :=
  isAscii_formWithin written

end Json

end KeyCluster

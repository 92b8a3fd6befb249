import KeyCluster.Json.Printer
import KeyCluster.Proofs.Json.Pairs
import KeyCluster.Proofs.Text.Order
import Mathlib.Data.List.Basic
import Mathlib.Data.Nat.Digits.Defs

/-! Words, numbers and texts are read as what they were written from. -/

namespace KeyCluster

/-- A text without surrogates. -/
def Text.IsWhole (text : Text) : Prop :=
  ∀ point ∈ text, ∃ c, point = .char c

/-- The text of some characters holds nothing else. -/
theorem Text.isWhole_ofChars (characters : List Char) : (ofChars characters).IsWhole := by
  intro point inside
  obtain ⟨c, _, rfl⟩ := List.mem_map.mp inside
  exact ⟨c, rfl⟩

namespace CodePoint

/-- A character is no half of a pair. -/
theorem toNat_apart (c : Char) : ¬ (0xD800 ≤ c.toNat ∧ c.toNat < 0xE000) := by
  rintro ⟨low, high⟩
  exact number_char_ne c ⟨c.toNat - 0xD800, by omega⟩ (Nat.add_sub_of_le low).symm

/-- The number of a character stands for this character. -/
theorem ofNumber_toNat (c : Char) : ofNumber c.toNat = .char c := by
  rw [ofNumber, dif_neg (toNat_apart c), Char.ofNat_toNat]

/-- The number of a surrogate stands for this surrogate. -/
theorem ofNumber_surrogate (s : Fin 0x800) : ofNumber (surrogate s).number = .surrogate s := by
  have bounds : 0xD800 ≤ 0xD800 + s.val ∧ 0xD800 + s.val < 0xE000 := by omega
  simp [ofNumber, number, bounds]

variable {point : CodePoint}

/-- A first half is a surrogate. -/
theorem exists_surrogate_of_isHigh (first : Json.isHigh point.number = true) : ∃ s, point = .surrogate s := by
  cases point with
  | surrogate s => exact ⟨s, rfl⟩
  -- A character is no surrogate, and the numbers of first halves are.
  | char c =>
    have apart := toNat_apart c
    change Json.isHigh c.toNat = true at first
    simp only [Json.isHigh, Bool.and_eq_true, decide_eq_true_eq] at first
    omega

/-- So is a second half. -/
theorem exists_surrogate_of_isLow (second : Json.isLow point.number = true) : ∃ s, point = .surrogate s := by
  cases point with
  | surrogate s => exact ⟨s, rfl⟩
  -- As for first halves.
  | char c =>
    have apart := toNat_apart c
    change Json.isLow c.toNat = true at second
    simp only [Json.isLow, Bool.and_eq_true, decide_eq_true_eq] at second
    omega

theorem isHigh_char (c : Char) : Json.isHigh c.toNat = false := by
  rw [Bool.eq_false_iff]
  intro first
  obtain ⟨s, same⟩ := @exists_surrogate_of_isHigh (.char c) first
  cases same

end CodePoint

/-- So nothing is put together in a text without surrogates. -/
theorem Text.paired_of_isWhole {text : Text} (whole : text.IsWhole) : text.paired = text := by
  induction text using paired.induct with
  | case1 | case2 => rfl
  | case3 a b rest pair ih =>
    -- The first half would be a surrogate.
    obtain ⟨c, rfl⟩ := whole a (by simp)
    rw [CodePoint.isPair, Bool.and_eq_true] at pair
    obtain ⟨s, same⟩ := CodePoint.exists_surrogate_of_isHigh pair.1
    cases same
  | case4 a b rest apart ih =>
    rw [paired_of_not_isPair (by simpa using apart), ih (List.forall_mem_cons.mp whole).2]

@[simp] theorem Text.chars_ofChars (characters : List Char) : (ofChars characters).chars = characters := by
  rw [chars, ofChars, List.map_map]
  exact List.map_id _

@[simp] theorem Text.chars_append (a b : Text) : chars (a ++ b) = chars a ++ chars b :=
  List.map_append

@[simp] theorem Text.length_chars (text : Text) : text.chars.length = text.length :=
  List.length_map _

namespace Digit

/-- A hexadecimal digit has the value that it was made for. -/
theorem hex?_hexDigit {n : Nat} (small : n < 16) : hex? (hexDigit n) = some n := by
  have each : ∀ n < 16, hex? (hexDigit n) = some n := by decide
  exact each n small

/-- Hexadecimal digits write the number that they were made for. -/
theorem hexNumber?_hexText (width : Nat) {n : Nat} (small : n < 16 ^ width) :
    hexNumber? (hexText width n) = some n := by
  unfold hexNumber?
  induction width generalizing n with
  | zero =>
    -- A number below one has no digits.
    obtain rfl : n = 0 := by omega
    rfl
  | succ width ih =>
    -- The last digit is the remainder, and the digits in front of it write the quotient.
    have front : n / 16 < 16 ^ width := Nat.div_lt_of_lt_mul (by rwa [pow_succ'] at small)
    rw [hexText, List.foldlM_append, ih front]
    simp [hex?_hexDigit (Nat.mod_lt n (by decide : 0 < 16)), Nat.div_add_mod']

end Digit

/-- Decimal digits write the number that they were made from. -/
theorem Numeral.ofDigits_toDigits (n : Nat) : ofDigits 10 (Nat.toDigits 10 n) = n := by
  -- Both ways to read digits add up the same values, whatever was read before.
  have same : ∀ (digits : List Char) (start : Nat), (∀ c ∈ digits, c.isDigit = true) →
      digits.foldl (fun n c => n * 10 + (Digit.value? c).getD 0) start = Nat.ofDigitChars 10 digits start := by
    intro digits
    induction digits with
    | nil => exact fun _ _ => rfl
    | cons c rest ih =>
      intro start all
      obtain ⟨digit, others⟩ := List.forall_mem_cons.mp all
      have value : Digit.value? c = some (c.toNat - '0'.toNat) := by
        obtain ⟨low, high⟩ := Char.isDigit_iff_toNat.mp digit
        have bounds : '0' ≤ c ∧ c ≤ '9' := ⟨low, high⟩
        simp [Digit.value?, bounds]
      rw [List.foldl_cons, Nat.ofDigitChars_cons, value, ih _ others, Nat.mul_comm]
      rfl
  rw [ofDigits, same _ _ fun c inside => Nat.isDigit_of_mem_toDigits (by decide) (by decide) inside]
  exact Nat.ofDigitChars_toDigits (by decide) (by decide)

/-- Only the digits of zero begin with a zero. -/
theorem eq_nil_of_toDigits {n : Nat} {rest : List Char} (written : Nat.toDigits 10 n = '0' :: rest) :
    rest = [] := by
  induction n using Nat.strongRecOn generalizing rest with
  | ind n ih =>
    rw [Nat.toDigits_eq_if (by decide)] at written
    split at written
    · exact (List.cons.inj written).2.symm
    · rename_i large
      -- The digits before the last one begin with a zero as well, so the number before it is zero.
      cases front : Nat.toDigits 10 (n / 10) with
      | nil => exact absurd front Nat.toDigits_ne_nil
      | cons c more =>
        rw [front] at written
        obtain rfl := (List.cons.inj written).1
        obtain rfl := ih (n / 10) (by omega) front
        have zero := Numeral.ofDigits_toDigits (n / 10)
        rw [front, show Numeral.ofDigits 10 ['0'] = 0 from rfl] at zero
        omega

namespace Json

/-- A text in which no number goes on. -/
def EndsNumber (rest : List Char) : Prop :=
  ∀ c ∈ rest.head?, c.isDigit = false ∧ c ≠ '.' ∧ c ≠ 'e' ∧ c ≠ 'E'

section Numbers

variable {rest : List Char} {n : Nat} {i : Int}

/-- A number is written in decimal digits. -/
theorem isDigit_of_mem_toDigits {c : Char} (inside : c ∈ Nat.toDigits 10 n) : c.isDigit = true :=
  Nat.isDigit_of_mem_toDigits (by decide) (by decide) inside

/-- The digits of a number are all read where no number goes on behind them. -/
theorem wholeDigits_toDigits (ends : EndsNumber rest) :
    wholeDigits (Nat.toDigits 10 n ++ rest) = Nat.toDigits 10 n := by
  -- What follows an integer is no digit, so the run of digits ends where it should.
  have stop : rest.takeWhile Char.isDigit = [] := by
    cases rest with
    | nil => rfl
    | cons c more => simp [(ends c rfl).1]
  have all : (Nat.toDigits 10 n ++ rest).takeWhile Char.isDigit = Nat.toDigits 10 n := by
    rw [List.takeWhile_append_of_pos fun c => isDigit_of_mem_toDigits, stop, List.append_nil]
  unfold wholeDigits
  split
  · -- A zero in front is read alone, and digits that begin with it are no others.
    rename_i begun
    cases written : Nat.toDigits 10 n with
    | nil => exact absurd written Nat.toDigits_ne_nil
    | cons c more =>
      rw [written] at begun
      obtain rfl := (List.cons.inj begun).1
      rw [eq_nil_of_toDigits written]
  · exact all

/-- No fraction follows where no number goes on. -/
theorem fractionPart_eq_nil (ends : EndsNumber rest) : fractionPart rest = [] := by
  unfold fractionPart
  split
  · exact absurd rfl (ends '.' rfl).2.1
  · rfl

/-- Nor does an exponent. -/
theorem exponentPart_eq_nil (ends : EndsNumber rest) : exponentPart rest = [] := by
  cases rest with
  | nil => rfl
  | cons c more =>
    obtain ⟨_, _, lower, upper⟩ := ends c rfl
    simp [exponentPart, lower, upper]

/-- The characters of an integer: a sign where it is negative, and the digits of its size. -/
theorem chars_intText (i : Int) :
    (Value.intText i).chars = if i < 0 then '-' :: Nat.toDigits 10 i.natAbs else Nat.toDigits 10 i.natAbs := by
  unfold Value.intText Shortest.withSign
  simp only [decide_eq_true_eq]
  split
  · exact congrArg ('-' :: ·) (Text.chars_ofChars _)
  · exact Text.chars_ofChars _

/-- An integer that can be written has not too many digits. -/
theorem length_toDigits_le (few : (Value.int i).isWritable = true) :
    (Nat.toDigits 10 i.natAbs).length ≤ Numeral.digitLimit := by
  -- The bound is stated for any number of digits, since its power is too large to be worked out.
  have bound {n digits : Nat} (given : 0 < digits) (few : n < Nat.pow 10 digits) :
      (Nat.toDigits 10 n).length ≤ digits :=
    (Nat.length_toDigits_le_iff (by decide) given).mpr few
  rw [Value.isWritable] at few
  exact bound (by decide) (of_decide_eq_true few)

/-- The digits of a number do not begin with a sign. -/
theorem toDigits_append_ne (body : List Char) : Nat.toDigits 10 n ++ rest ≠ '-' :: body := by
  -- Digits begin with a digit, which is no sign.
  cases written : Nat.toDigits 10 n with
  | nil => exact absurd written Nat.toDigits_ne_nil
  | cons c more =>
    have digit : c.isDigit = true := isDigit_of_mem_toDigits (n := n) (by simp [written])
    have other : c ≠ '-' := ne_of_apply_ne Char.isDigit (by rw [digit]; decide)
    exact fun begun => other (List.cons.inj begun).1

/-- An integer that can be written is read as itself. -/
theorem readNumber_intText (few : (Value.int i).isWritable = true) (ends : EndsNumber rest) :
    readNumber ((Value.intText i).chars ++ rest) = .ok (.int i, rest) := by
  -- The digits of the absolute value are read back, whatever the sign is.
  have whole := wholeDigits_toDigits (n := i.natAbs) ends
  have count : ¬ Numeral.digitLimit < (Nat.toDigits 10 i.natAbs).length :=
    Nat.not_lt.mpr (length_toDigits_le few)
  have read {negative : Bool} (same : Double.signed negative i.natAbs = i) :
      Value.int (Double.signed negative (Numeral.ofDigits 10 (Nat.toDigits 10 i.natAbs))) = .int i := by
    rw [Numeral.ofDigits_toDigits, same]
  -- The sign is split off first; the digits behind it are read, and nothing else.
  rw [chars_intText]
  split
  · rename_i negative
    have same : Double.signed true i.natAbs = i := by
      simp only [Double.signed, if_true]
      omega
    rw [List.cons_append, readNumber]
    simp [whole, Nat.toDigits_ne_nil, fractionPart_eq_nil ends, exponentPart_eq_nil ends, count, read same]
  · rename_i positive
    have same : Double.signed false i.natAbs = i := by
      simp only [Double.signed, Bool.false_eq_true, if_false]
      omega
    rw [readNumber]
    · simp [whole, Nat.toDigits_ne_nil, fractionPart_eq_nil ends, exponentPart_eq_nil ends, count, read same]
    · exact toDigits_append_ne

end Numbers

section Texts

variable {opening fuel unit high low : Nat} {c e : Char} {rest text after : List Char} {point : CodePoint}
  {tail : Text}

/-- The digits of a code unit are read where a text goes on behind them. -/
theorem unit?_hexText (small : unit < 0x10000) :
    unit? (Digit.hexText 4 unit ++ c :: rest) = some (unit, c :: rest) := by
  -- The reader takes four characters, which are just the digits of the unit.
  have number := Digit.hexNumber?_hexText 4 small
  obtain ⟨a, b, d, f, four⟩ : ∃ a b d f, Digit.hexText 4 unit = [a, b, d, f] := ⟨_, _, _, _, rfl⟩
  rw [four] at number ⊢
  simp [unit?, number]

/-- A code unit that begins no pair stands for the code point of its number. -/
theorem escaped_unit (small : unit < 0x10000) (alone : isHigh unit = false) (c : Char) (rest : List Char) :
    escaped (Digit.hexText 4 unit ++ c :: rest) = .ok (.ofNumber unit, c :: rest) := by
  simp [escaped, unit?_hexText small, alone]

/-- Two code units that make a pair stand for its code point. -/
theorem escaped_pair (first : isHigh high = true) (second : isLow low = true) (c : Char) (rest : List Char) :
    escaped (Digit.hexText 4 high ++ (unitText low ++ c :: rest)) = .ok (ofPair high low, c :: rest) := by
  have bounds : high < 0x10000 ∧ low < 0x10000 := by
    simp only [isHigh, isLow, Bool.and_eq_true, decide_eq_true_eq] at first second
    omega
  -- The second half is only looked for where enough is left for it.
  have long : ¬ (Digit.hexText 4 low).length + (rest.length + 1) < 5 := by
    simp only [Digit.hexText, List.nil_append, List.cons_append, List.length_cons, List.length_nil]
    omega
  simp [escaped, unitText, unit?_hexText bounds.1, unit?_hexText bounds.2, first, second, long]

/-- A text value does not end with its characters. -/
theorem exists_cons_of_textFrom (read : textFrom opening fuel text = .ok (tail, after)) :
    ∃ c rest, text = c :: rest := by
  cases text with
  | cons c rest => exact ⟨c, rest, rfl⟩
  | nil => cases fuel <;> cases read

/-- A short escape stands for its character. -/
theorem textFrom_short (known : short? e = some c) (read : textFrom opening fuel text = .ok (tail, after)) :
    textFrom opening (fuel + 1) ('\\' :: e :: text) = .ok (.char c :: tail, after) := by
  -- The letter of a code unit is no short escape.
  have other : e ≠ 'u' := by
    rintro rfl
    cases known
  rw [textFrom, if_neg (by decide), if_pos (by decide)]
  · simp [known, read, Bind.bind, Except.bind, Pure.pure, Except.pure]
  · exact other

/-- An escape by number stands for its code point. -/
theorem textFrom_escaped (known : escaped rest = .ok (point, text))
    (read : textFrom opening fuel text = .ok (tail, after)) :
    textFrom opening (fuel + 1) ('\\' :: 'u' :: rest) = .ok (point :: tail, after) := by
  rw [textFrom, if_neg (by decide), if_pos (by decide)]
  simp [known, read, Bind.bind, Except.bind, Pure.pure, Except.pure]

/-- A character that needs no escape stands for itself. -/
theorem textFrom_plain (noQuote : c ≠ '"') (noEscape : c ≠ '\\') (shown : 0x20 ≤ c.toNat)
    (read : textFrom opening fuel text = .ok (tail, after)) :
    textFrom opening (fuel + 1) (c :: text) = .ok (.char c :: tail, after) := by
  have noControl : ¬ c.toNat < 0x20 := Nat.not_lt.mpr shown
  simp [textFrom, noQuote, noEscape, noControl, read, Bind.bind, Except.bind, Pure.pure, Except.pure]

/-- How a character is written inside a text. -/
inductive WrittenForm (c : Char) : List Char → Prop
  /-- With a short escape. -/
  | short {e : Char} (known : short? e = some c) : WrittenForm c ['\\', e]
  /-- As itself. -/
  | plain (noQuote : c ≠ '"') (noEscape : c ≠ '\\') (shown : 0x20 ≤ c.toNat ∧ c.toNat < 0x7F) :
    WrittenForm c [c]
  /-- As a code unit. -/
  | unit (small : c.toNat < 0x10000) : WrittenForm c (unitText c.toNat)
  /-- As the two halves of a pair. -/
  | pair {high low : Nat} (first : isHigh high = true) (second : isLow low = true)
      (same : ofPair high low = .char c) : WrittenForm c (unitText high ++ unitText low)

/-- Every character is written in one of these forms. -/
theorem writtenForm_charText (c : Char) : WrittenForm c (charText c) := by
  have short {d e : Char} (same : (c == d) = true) (known : short? e = some d) : WrittenForm c ['\\', e] := by
    rw [← eq_of_beq same] at known
    exact .short known
  unfold charText
  -- Seven characters have a short escape.
  split
  · exact short ‹_› rfl
  rename_i noQuote
  split
  · exact short ‹_› rfl
  rename_i noEscape
  split
  · exact short ‹_› rfl
  split
  · exact short ‹_› rfl
  split
  · exact short ‹_› rfl
  split
  · exact short ‹_› rfl
  split
  · exact short ‹_› rfl
  split
  · rename_i shown
    rw [Bool.and_eq_true, decide_eq_true_eq, decide_eq_true_eq] at shown
    exact .plain (by simpa using noQuote) (by simpa using noEscape) shown
  split
  · exact .unit ‹_›
  · -- The bits of a large number are split over the two halves of a pair, and put together again.
    have valid : c.toNat.isValidChar := c.valid
    unfold Nat.isValidChar at valid
    refine .pair ?_ ?_ ?_
    · simp only [isHigh, Bool.and_eq_true, decide_eq_true_eq]
      omega
    · simp only [isLow, Bool.and_eq_true, decide_eq_true_eq]
      omega
    · have sum : 0x10000 + (0xD800 + (c.toNat - 0x10000) / 0x400 - 0xD800) * 0x400
          + (0xDC00 + (c.toNat - 0x10000) % 0x400 - 0xDC00) = c.toNat := by omega
      rw [ofPair, sum, CodePoint.ofNumber_toNat]

/-- A character in its written form stands for itself, whatever follows it. -/
theorem textFrom_charText (c : Char) (read : textFrom opening fuel text = .ok (tail, after)) :
    textFrom opening (fuel + 1) (charText c ++ text) = .ok (.char c :: tail, after) := by
  obtain ⟨d, rest, rfl⟩ := exists_cons_of_textFrom read
  have written := writtenForm_charText c
  generalize charText c = form at written
  -- The character is read back in each of the four ways in which it may be written.
  cases written with
  | short known => exact textFrom_short known read
  | plain noQuote noEscape shown => exact textFrom_plain noQuote noEscape shown.1 read
  | unit small =>
    have known := escaped_unit small (CodePoint.isHigh_char c) d rest
    rw [CodePoint.ofNumber_toNat] at known
    exact textFrom_escaped known read
  | pair first second same =>
    have known := escaped_pair first second d rest
    rw [same] at known
    rw [List.append_assoc]
    exact textFrom_escaped known read

/-- A text that does not begin with the escape of a second half. -/
def BeginsWithNoLow (text : List Char) : Prop :=
  ∀ more, text = '\\' :: 'u' :: more → ∃ unit after, unit? more = some (unit, after) ∧ isLow unit = false

/-- A first half without its second one stands for itself. -/
theorem escaped_alone (first : isHigh high = true) (some : text ≠ []) (apart : BeginsWithNoLow text) :
    escaped (Digit.hexText 4 high ++ text) = .ok (.ofNumber high, text) := by
  have small : high < 0x10000 := by
    simp only [isHigh, Bool.and_eq_true, decide_eq_true_eq] at first
    omega
  obtain ⟨c, rest, rfl⟩ := List.exists_cons_of_ne_nil some
  -- The unit is read, and what comes behind it is not the second half of a pair.
  simp only [escaped, unit?_hexText small, first, Bool.not_true, Bool.false_eq_true, if_false]
  split
  · rename_i more begun
    obtain ⟨unit, after, known, other⟩ := apart _ begun
    split
    · rfl
    · simp [known, other]
  · rfl

/-- The escape of a unit is one of a second half only if the unit is one. -/
theorem beginsWithNoLow_unitText (small : unit < 0x10000) (other : isLow unit = false) (c : Char)
    (rest : List Char) : BeginsWithNoLow (unitText unit ++ c :: rest) := by
  intro more begun
  obtain rfl : Digit.hexText 4 unit ++ c :: rest = more := by simpa [unitText] using begun
  exact ⟨unit, c :: rest, unit?_hexText small, other⟩

/-- Only a second half is written as the escape of one. -/
theorem beginsWithNoLow_pointText (other : isLow point.number = false) (c : Char) (rest : List Char) :
    BeginsWithNoLow (pointText point ++ c :: rest) := by
  cases point with
  | surrogate s => exact beginsWithNoLow_unitText (by simp only [CodePoint.number]; omega) other c rest
  | char d =>
    change isLow d.toNat = false at other
    change BeginsWithNoLow (charText d ++ c :: rest)
    have written := writtenForm_charText d
    generalize charText d = form at written
    cases written with
    | @short e known =>
      intro more begun
      obtain rfl : e = 'u' := (List.cons.inj (List.cons.inj begun).2).1
      cases known
    | plain _ noEscape _ =>
      intro more begun
      exact absurd (List.cons.inj begun).1 noEscape
    | unit small => exact beginsWithNoLow_unitText small other c rest
    | @pair high low first _ _ =>
      -- The escape in front is that of a first half.
      simp only [isHigh, Bool.and_eq_true, decide_eq_true_eq] at first
      rw [List.append_assoc]
      refine beginsWithNoLow_unitText (by omega) ?_ '\\' _
      rw [Bool.eq_false_iff]
      simp only [isLow, ne_eq, Bool.and_eq_true, decide_eq_true_eq]
      omega

/-- A code point stands for itself, unless it is a first half in front of a second one. -/
theorem textFrom_pointText (apart : isHigh point.number = true → BeginsWithNoLow text)
    (read : textFrom opening fuel text = .ok (tail, after)) :
    textFrom opening (fuel + 1) (pointText point ++ text) = .ok (point :: tail, after) := by
  cases point with
  -- Only a surrogate depends on what stands behind it.
  | char c => exact textFrom_charText c read
  | surrogate s =>
    obtain ⟨c, rest, rfl⟩ := exists_cons_of_textFrom read
    have known : escaped (Digit.hexText 4 (CodePoint.surrogate s).number ++ c :: rest) =
        .ok (.ofNumber (CodePoint.surrogate s).number, c :: rest) := by
      cases first : isHigh (CodePoint.surrogate s).number with
      | true => exact escaped_alone first (List.cons_ne_nil _ _) (apart first)
      | false => exact escaped_unit (by simp only [CodePoint.number]; omega) first c rest
    rw [CodePoint.ofNumber_surrogate] at known
    exact textFrom_escaped known read

/-- The characters of a text are read up to the quote that ends it, halves that stand side by side as one. -/
theorem textFrom_flatMap {s : Text} (enough : s.length < fuel) :
    textFrom opening fuel (s.flatMap pointText ++ '"' :: rest) = .ok (s.paired, rest) := by
  -- At most one step of the reader for each code point, and a last one for the quote.
  obtain ⟨fuel, rfl⟩ := Nat.exists_eq_add_one_of_ne_zero (Nat.ne_of_gt (Nat.zero_lt_of_lt enough))
  induction s using Text.paired.induct generalizing fuel with
  | case1 => rfl
  | case2 a =>
    obtain ⟨fuel, rfl⟩ := Nat.exists_eq_add_one_of_ne_zero (by simp at enough; omega : fuel ≠ 0)
    have closed : textFrom opening (fuel + 1) ('"' :: rest) = .ok ([], rest) := rfl
    -- A single code point is followed by the quote, which is no escape.
    simpa [Text.paired] using textFrom_pointText (fun _ more begun => by simp at begun) closed
  | case3 a b s pair ih =>
    simp only [List.length_cons] at enough
    obtain ⟨fuel, rfl⟩ := Nat.exists_eq_add_one_of_ne_zero (by omega : fuel ≠ 0)
    have later := ih fuel (by omega)
    obtain ⟨c, more, begins⟩ := exists_cons_of_textFrom later
    rw [Text.paired_of_isPair pair, List.flatMap_cons, List.flatMap_cons, List.append_assoc, List.append_assoc]
    rw [CodePoint.isPair, Bool.and_eq_true] at pair
    -- Both halves are surrogates, so that each is written as its unit.
    obtain ⟨high, rfl⟩ := CodePoint.exists_surrogate_of_isHigh pair.1
    obtain ⟨low, rfl⟩ := CodePoint.exists_surrogate_of_isLow pair.2
    rw [begins] at later ⊢
    exact textFrom_escaped (escaped_pair pair.1 pair.2 c more) later
  | case4 a b s apart ih =>
    simp only [List.length_cons] at enough
    obtain ⟨fuel, rfl⟩ := Nat.exists_eq_add_one_of_ne_zero (by omega : fuel ≠ 0)
    have later := ih fuel (by simp only [List.length_cons]; omega)
    rw [Text.paired_of_not_isPair (by simpa using apart), List.flatMap_cons, List.append_assoc]
    -- What stands behind a first half is no second half here, so the two are read apart.
    refine textFrom_pointText (fun first => ?_) later
    have other : isLow b.number = false := by simpa [CodePoint.isPair, first] using apart
    obtain ⟨c, more, begins⟩ := List.exists_cons_of_ne_nil (by simp : s.flatMap pointText ++ '"' :: rest ≠ [])
    rw [List.flatMap_cons, List.append_assoc, begins]
    exact beginsWithNoLow_pointText other c more

/-- No code point is written with nothing. -/
theorem length_le_flatMap (s : Text) : s.length ≤ (s.flatMap pointText).length := by
  -- Whatever a code point is written as takes a character at least.
  have some (point : CodePoint) : 1 ≤ (pointText point).length := by
    cases point with
    | char c =>
      rw [pointText, charText]
      repeat' split
      all_goals simp [unitText]
    | surrogate s => simp [pointText, unitText]
  induction s with
  | nil => exact Nat.zero_le _
  | cons point s ih =>
    have here := some point
    rw [List.flatMap_cons, List.length_append, List.length_cons]
    omega

/-- So is the form of a text without its opening quote. -/
theorem readText_flatMap (s : Text) (rest : List Char) :
    readText (s.flatMap pointText ++ '"' :: rest) = .ok (s.paired, rest) := by
  -- The reader may take as many steps as there are characters.
  have long := length_le_flatMap s
  refine textFrom_flatMap ?_
  rw [List.length_append, List.length_cons]
  omega

/-- The characters of the form of a text. -/
theorem chars_textForm (s : Text) : (textForm s).chars = '"' :: (s.flatMap pointText ++ ['"']) :=
  Text.chars_ofChars _

end Texts

end Json

end KeyCluster

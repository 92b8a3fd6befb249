import KeyCluster.Proofs.Failure.Result
import KeyCluster.Proofs.Json.Ascii
import KeyCluster.Proofs.Json.Scalars
import KeyCluster.Proofs.Value.Overlay

/-! What is written as JSON is read as the value that it was written from. -/

namespace KeyCluster

/-- Values that JSON has a form of its own for: absent values, truth values, integers, texts without
surrogates, lists, and mappings from different texts without surrogates. -/
inductive Value.IsJson : Value → Prop where
  | null : IsJson .null
  | bool (b : Bool) : IsJson (.bool b)
  | int (i : Int) : IsJson (.int i)
  | text {s : Text} (whole : s.IsWhole) : IsJson (.text s)
  | list {items : List Value} (each : ∀ item ∈ items, IsJson item) : IsJson (.list items)
  | record {fields : List (Text × Value)} (once : (names fields).Nodup)
      (whole : ∀ field ∈ fields, field.1.IsWhole) (each : ∀ field ∈ fields, IsJson field.2) :
      IsJson (.record fields)

namespace Json

variable {v : Value} {room fuel : Nat} {c : Char} {items : List Value} {parts : List Text}
  {fields : List (Text × Value)} {text rest more : List Char}

/-- A written value, as it is read wherever it stands: its text neither begins with a blank nor with the bracket
that ends a list, and the value is read off it where no number goes on behind. Of two calls of the reader at
least one reads a character, which bounds the fuel. -/
structure Decodes (room : Nat) (v : Value) (text : Text) : Prop where
  opens : ∃ c more, text.chars = c :: more ∧ isBlank c = false ∧ c ≠ ']'
  read : ∀ {fuel : Nat} {rest : List Char}, EndsNumber rest → 2 * text.length ≤ fuel →
    readValue fuel room (text.chars ++ rest) = .ok (v, rest)

/-- Where a text begins with no blank, none is left out. -/
theorem skipBlank_cons (shown : isBlank c = false) : skipBlank (c :: more) = c :: more := by
  rw [skipBlank, List.dropWhile_cons_of_neg]
  rw [shown]
  exact Bool.false_ne_true

/-- A blank between two parts is left out. -/
theorem skipBlank_blank (shown : isBlank c = false) : skipBlank (' ' :: c :: more) = c :: more :=
  skipBlank_cons shown

/-- A mark between the parts of a document ends a number. -/
theorem endsNumber_cons (mark : c = ',' ∨ c = ']' ∨ c = '\x7d') : EndsNumber (c :: more) := by
  intro d first
  obtain rfl := Option.some.inj first
  rcases mark with rfl | rfl | rfl <;> decide

/-- What begins with neither a quote nor a bracket is a word, if there is one. -/
theorem readValue_word (noQuote : c ≠ '"') (noBracket : c ≠ '[') (noBrace : c ≠ '\x7b')
    (found : readWord? (c :: more) = some (v, rest)) :
    readValue (fuel + 1) room (c :: more) = .ok (v, rest) := by
  simp [readValue, noQuote, noBracket, noBrace, found]

/-- Otherwise it is a number. -/
theorem readValue_number (noQuote : c ≠ '"') (noBracket : c ≠ '[') (noBrace : c ≠ '\x7b')
    (noWord : readWord? (c :: more) = none) :
    readValue (fuel + 1) room (c :: more) = readNumber (c :: more) := by
  simp [readValue, noQuote, noBracket, noBrace, noWord]

/-- A word is read as its value. -/
theorem decodes_word {word : List Char} (begins : word = c :: more) (shown : isBlank c = false)
    (letter : c.isAlpha = true)
    (known : ∀ rest, readWord? (word ++ rest) = some (v, rest)) : Decodes room v (Text.ofChars word) := by
  subst begins
  have other {d : Char} (mark : d.isAlpha = false) : c ≠ d :=
    ne_of_apply_ne Char.isAlpha (by rw [letter, mark]; decide)
  refine ⟨⟨c, more, Text.chars_ofChars _, shown, other rfl⟩, fun {fuel rest} _ enough => ?_⟩
  -- The word has a character, so there is fuel for one call.
  rw [Text.ofChars, List.length_map, List.length_cons] at enough
  obtain ⟨fuel, rfl⟩ := Nat.exists_eq_add_one_of_ne_zero (by omega : fuel ≠ 0)
  rw [Text.chars_ofChars]
  exact readValue_word (other rfl) (other rfl) (other rfl) (known rest)

/-- No word begins with a digit. -/
theorem readWord?_digit (digit : c.isDigit = true) : readWord? (c :: more) = none := by
  have other {d : Char} (mark : d.isDigit = false) : d ≠ c :=
    ne_of_apply_ne Char.isDigit (by rw [digit, mark]; decide)
  simp [readWord?, words, List.isPrefixOf, other]

/-- Behind a sign, no word does either. -/
theorem readWord?_sign (digit : c.isDigit = true) : readWord? ('-' :: c :: more) = none := by
  -- Only the negative infinity begins with the sign.
  have other : 'I' ≠ c := ne_of_apply_ne Char.isDigit (by rw [digit]; decide)
  simp [readWord?, words, List.isPrefixOf, other]

/-- An integer is read as itself. -/
theorem decodes_int {i : Int} (few : (Value.int i).isWritable = true) :
    Decodes room (.int i) (Value.intText i) := by
  obtain ⟨d, digits, written⟩ : ∃ d digits, Nat.toDigits 10 i.natAbs = d :: digits :=
    List.exists_cons_of_ne_nil Nat.toDigits_ne_nil
  have digit : d.isDigit = true := isDigit_of_mem_toDigits (n := i.natAbs) (by simp [written])
  have other {e : Char} (mark : e.isDigit = false) : d ≠ e :=
    ne_of_apply_ne Char.isDigit (by rw [digit, mark]; decide)
  have shown : isBlank d = false := by
    simp [isBlank, other]
  have length : 1 ≤ (Value.intText i).length := by
    rw [← Text.length_chars, chars_intText, written]
    split <;> simp
  -- Either way, the text begins with a sign or a digit, and no word begins so.
  have bare {c : Char} {more : List Char} (begins : (Value.intText i).chars = c :: more)
      (noQuote : c ≠ '"') (noBracket : c ≠ '[') (noBrace : c ≠ '\x7b')
      (noWord : ∀ rest, readWord? (c :: more ++ rest) = none) {fuel : Nat} {rest : List Char}
      (ends : EndsNumber rest) (enough : 2 * (Value.intText i).length ≤ fuel) :
      readValue fuel room ((Value.intText i).chars ++ rest) = .ok (.int i, rest) := by
    obtain ⟨fuel, rfl⟩ := Nat.exists_eq_add_one_of_ne_zero (by omega : fuel ≠ 0)
    have read := readNumber_intText few ends
    rw [begins] at read ⊢
    exact (readValue_number noQuote noBracket noBrace (noWord rest)).trans read
  have begins := chars_intText i
  rw [written] at begins
  split at begins
  · exact ⟨⟨_, _, begins, rfl, by decide⟩,
      bare begins (by decide) (by decide) (by decide) fun rest => readWord?_sign digit⟩
  · exact ⟨⟨_, _, begins, shown, other rfl⟩,
      bare begins (other rfl) (other rfl) (other rfl) fun rest => readWord?_digit digit⟩

/-- A text is read as itself, except for halves of pairs that stand side by side. -/
theorem decodes_text (s : Text) : Decodes room (.text s.paired) (textForm s) := by
  refine ⟨⟨_, _, chars_textForm s, rfl, by decide⟩, fun {fuel rest} _ enough => ?_⟩
  rw [← Text.length_chars, chars_textForm, List.length_cons] at enough
  obtain ⟨fuel, rfl⟩ := Nat.exists_eq_add_one_of_ne_zero (by omega : fuel ≠ 0)
  -- The quote in front decides that it is a text, which ends with the quote behind it.
  rw [chars_textForm, List.cons_append, List.append_assoc, List.singleton_append, readValue, readText_flatMap]
  rfl

/-- Parts with commas between them. -/
def joined (parts : List Text) : Text :=
  List.intercalate ", " parts

/-- A part alone has no comma behind it. -/
theorem joined_singleton (part : Text) : joined [part] = part :=
  List.intercalate_singleton

/-- A comma and a blank stand between a part and the next one. -/
theorem chars_joined (part next : Text) (parts : List Text) :
    (joined (part :: next :: parts)).chars = part.chars ++ ',' :: ' ' :: (joined (next :: parts)).chars := by
  rw [joined, List.intercalate_cons_cons, Text.chars_append, Text.chars_append, List.append_assoc]
  rfl

/-- Parts with commas between them begin as the first one does. -/
theorem exists_chars_joined {part : Text} (begins : part.chars = c :: more) (parts : List Text) :
    ∃ more, (joined (part :: parts)).chars = c :: more := by
  cases parts with
  | nil => exact ⟨more, by rw [joined_singleton, begins]⟩
  | cons next parts => exact ⟨_, by rw [chars_joined, begins]; rfl⟩

/-- The last item of a list is read up to the bracket. -/
theorem readItems_last {item : Value} (read : readValue fuel room text = .ok (item, ']' :: rest)) :
    readItems (fuel + 1) room text = .ok ([item], rest) := by
  rw [readItems, read]
  rfl

/-- An item is read before the others, from which a comma and a blank part it. -/
theorem readItems_cons {item : Value} (shown : isBlank c = false)
    (read : readValue fuel room text = .ok (item, ',' :: ' ' :: c :: more))
    (later : readItems fuel room (c :: more) = .ok (items, rest)) :
    readItems (fuel + 1) room text = .ok (item :: items, rest) := by
  have comma : skipBlank (',' :: ' ' :: c :: more) = ',' :: ' ' :: c :: more := rfl
  simp [readItems, read, comma, skipBlank_blank shown, later, Bind.bind, Except.bind, Pure.pure, Except.pure]

/-- The items of a list are read one after the other up to its bracket. -/
theorem readItems_joined (each : List.Forall₂ (Decodes room) items parts) (given : parts ≠ [])
    (enough : 2 * (joined parts).chars.length + 1 ≤ fuel) :
    readItems fuel room ((joined parts).chars ++ ']' :: rest) = .ok (items, rest) := by
  -- Each call reads one item, and its comma pays for the call that reads the next one.
  induction each generalizing fuel with
  | nil => exact absurd rfl given
  | @cons item part items parts here others ih =>
    obtain ⟨fuel, rfl⟩ := Nat.exists_eq_add_one_of_ne_zero (by omega : fuel ≠ 0)
    cases others with
    | nil =>
      -- The bracket follows the last item.
      rw [joined_singleton, Text.length_chars] at enough
      rw [joined_singleton]
      exact readItems_last (here.read (endsNumber_cons (.inr (.inl rfl))) (by omega))
    | @cons _ next _ parts second others =>
      -- A comma and a blank follow it, and then the next item, which does not begin with a blank.
      obtain ⟨c, more, begins, shown, _⟩ := second.opens
      obtain ⟨more, begins⟩ := exists_chars_joined begins parts
      rw [chars_joined, List.length_append, Text.length_chars, List.length_cons, List.length_cons] at enough
      have later : readItems fuel room _ = _ := ih (List.cons_ne_nil _ _) (by omega)
      rw [chars_joined, List.append_assoc]
      rw [begins] at later ⊢
      exact readItems_cons shown (here.read (endsNumber_cons (.inl rfl)) (by omega)) later

/-- An entry of an object as it is written from a field: its name, a colon and its value. -/
def DecodesEntry (room : Nat) (field : Text × Value) (part : Text) : Prop :=
  field.1.IsWhole ∧ ∃ here, Decodes room field.2 here ∧ part = textForm field.1 ++ ": " ++ here

/-- The last entry of an object is read up to the brace. -/
theorem readEntries_last {name : Text} (whole : name.IsWhole) (shown : isBlank c = false)
    (read : readValue fuel room (c :: more) = .ok (v, '\x7d' :: rest)) :
    readEntries (fuel + 1) room ((textForm name).chars ++ ':' :: ' ' :: c :: more)
      = .ok ([(.text name, v)], rest) := by
  have colon : skipBlank (':' :: ' ' :: c :: more) = ':' :: ' ' :: c :: more := rfl
  have brace : skipBlank ('\x7d' :: rest) = '\x7d' :: rest := rfl
  rw [chars_textForm, List.cons_append, List.append_assoc, List.singleton_append, readEntries,
    readText_flatMap, Text.paired_of_isWhole whole]
  simp [colon, skipBlank_blank shown, brace, read, Bind.bind, Except.bind, Pure.pure, Except.pure]

/-- An entry is read before the others, from which a comma and a blank part it. -/
theorem readEntries_cons {name : Text} {entries : List (Value × Value)} {behind : List Char}
    (whole : name.IsWhole) (shown : isBlank c = false)
    (read : readValue fuel room (c :: more) = .ok (v, ',' :: ' ' :: '"' :: behind))
    (later : readEntries fuel room ('"' :: behind) = .ok (entries, rest)) :
    readEntries (fuel + 1) room ((textForm name).chars ++ ':' :: ' ' :: c :: more)
      = .ok ((.text name, v) :: entries, rest) := by
  -- Behind a name and a value the reader looks for a colon and a comma, which stand at once.
  have colon : skipBlank (':' :: ' ' :: c :: more) = ':' :: ' ' :: c :: more := rfl
  have comma : skipBlank (',' :: ' ' :: '"' :: behind) = ',' :: ' ' :: '"' :: behind := rfl
  have next : skipBlank (' ' :: '"' :: behind) = '"' :: behind := rfl
  rw [chars_textForm, List.cons_append, List.append_assoc, List.singleton_append, readEntries,
    readText_flatMap, Text.paired_of_isWhole whole]
  simp [colon, skipBlank_blank shown, comma, next, read, later, Bind.bind, Except.bind, Pure.pure,
    Except.pure]

/-- An entry begins with the quote of its name. -/
theorem DecodesEntry.begins {field : Text × Value} {part : Text} (here : DecodesEntry room field part) :
    ∃ more, part.chars = '"' :: more := by
  obtain ⟨_, value, _, rfl⟩ := here
  exact ⟨_, by rw [Text.chars_append, Text.chars_append, chars_textForm]; rfl⟩

/-- The entries of an object are read one after the other up to its brace. -/
theorem readEntries_joined (each : List.Forall₂ (DecodesEntry room) fields parts) (given : parts ≠ [])
    (enough : 2 * (joined parts).chars.length + 1 ≤ fuel) :
    readEntries fuel room ((joined parts).chars ++ '\x7d' :: rest) = .ok (Value.entries fields, rest) := by
  -- Each call reads one entry, as it does for items.
  induction each generalizing fuel with
  | nil => exact absurd rfl given
  | @cons field part fields parts here others ih =>
    obtain ⟨fuel, rfl⟩ := Nat.exists_eq_add_one_of_ne_zero (by omega : fuel ≠ 0)
    obtain ⟨whole, value, here, rfl⟩ := here
    obtain ⟨c, more, begins, shown, _⟩ := here.opens
    -- What stands behind the colon is read as the value, whatever mark follows it.
    have entry (rest : List Char) : (textForm field.1 ++ ": " ++ value).chars ++ rest
        = (textForm field.1).chars ++ ':' :: ' ' :: c :: (more ++ rest) := by
      rw [Text.chars_append, Text.chars_append, begins, List.append_assoc, List.append_assoc]
      rfl
    have read {mark : Char} (isMark : mark = ',' ∨ mark = ']' ∨ mark = '\x7d') (rest : List Char)
        (enough : 2 * (textForm field.1 ++ ": " ++ value).length ≤ fuel + 4) :
        readValue fuel room (c :: (more ++ mark :: rest)) = .ok (field.2, mark :: rest) := by
      have width : (↑": " : Text).length = 2 := rfl
      rw [List.length_append, List.length_append, width] at enough
      rw [← List.cons_append, ← begins]
      exact here.read (endsNumber_cons isMark) (by omega)
    cases others with
    | nil =>
      rw [joined_singleton, Text.length_chars] at enough
      rw [joined_singleton, entry]
      exact readEntries_last whole shown (read (.inr (.inr rfl)) rest (by omega))
    | @cons _ next _ parts second others =>
      -- The next entry begins with the quote of its name.
      obtain ⟨behind, quote⟩ := second.begins
      obtain ⟨behind, quote⟩ := exists_chars_joined quote parts
      rw [chars_joined, List.length_append, Text.length_chars, List.length_cons, List.length_cons] at enough
      have later : readEntries fuel room _ = _ := ih (List.cons_ne_nil _ _) (by omega)
      rw [quote] at later
      rw [chars_joined, quote, List.append_assoc, entry]
      exact readEntries_cons whole shown (read (.inl rfl) _ (by omega)) later

/-- Behind its bracket, a list that is not empty is read item by item. -/
theorem readValue_bracket (shown : isBlank c = false) (noBracket : c ≠ ']')
    (read : readItems fuel room (c :: more) = .ok (items, rest)) :
    readValue (fuel + 1) (room + 1) ('[' :: c :: more) = .ok (.list items, rest) := by
  have start : skipBlank (c :: more) = c :: more := skipBlank_cons shown
  simp [readValue, inside, start, noBracket, read, Bind.bind, Except.bind, Pure.pure, Except.pure]

/-- Behind its brace, an object that is not empty is read entry by entry. -/
theorem readValue_brace {entries : List (Value × Value)}
    (read : readEntries fuel room ('"' :: more) = .ok (entries, rest)) :
    readValue (fuel + 1) (room + 1) ('\x7b' :: '"' :: more) = .ok (.map (Value.mapping entries), rest) := by
  have quote : skipBlank ('"' :: more) = '"' :: more := rfl
  simp [readValue, inside, quote, read, Bind.bind, Except.bind, Pure.pure, Except.pure]

/-- A list is read as its items, between brackets. -/
theorem decodes_list (each : List.Forall₂ (Decodes room) items parts) :
    Decodes (room + 1) (.list items) (enclosed "[" "]" parts) := by
  have characters : (enclosed "[" "]" parts).chars = '[' :: ((joined parts).chars ++ [']']) := by
    rw [enclosed, Text.chars_append, Text.chars_append]
    rfl
  refine ⟨⟨_, _, characters, rfl, by decide⟩, fun {fuel rest} _ enough => ?_⟩
  -- The brackets leave more than enough fuel for the items between them.
  rw [← Text.length_chars, characters, List.length_cons, List.length_append, List.length_singleton] at enough
  obtain ⟨fuel, rfl⟩ := Nat.exists_eq_add_one_of_ne_zero (by omega : fuel ≠ 0)
  rw [characters, List.cons_append, List.append_assoc, List.singleton_append]
  cases each with
  | nil =>
    rw [readValue]
    rfl
  | @cons item part items parts here others =>
    -- The first item does not begin with the bracket that would end the list.
    obtain ⟨c, more, begins, shown, noBracket⟩ := here.opens
    obtain ⟨more, begins⟩ := exists_chars_joined begins parts
    have read : readItems fuel room (_ ++ ']' :: rest) = _ :=
      readItems_joined (.cons here others) (List.cons_ne_nil _ _) (by omega)
    rw [begins, List.cons_append] at read ⊢
    exact readValue_bracket shown noBracket read

/-- An object is read as its entries, between braces. -/
theorem decodes_record (once : (Value.names fields).Nodup)
    (each : List.Forall₂ (DecodesEntry room) fields parts) :
    Decodes (room + 1) (.record fields) (enclosed "\x7b" "\x7d" parts) := by
  -- Between the braces stands what the entries are joined to, so the reader has as much left as they need.
  have characters : (enclosed "\x7b" "\x7d" parts).chars = '\x7b' :: ((joined parts).chars ++ ['\x7d']) := by
    rw [enclosed, Text.chars_append, Text.chars_append]
    rfl
  refine ⟨⟨_, _, characters, rfl, by decide⟩, fun {fuel rest} _ enough => ?_⟩
  rw [← Text.length_chars, characters, List.length_cons, List.length_append, List.length_singleton] at enough
  obtain ⟨fuel, rfl⟩ := Nat.exists_eq_add_one_of_ne_zero (by omega : fuel ≠ 0)
  rw [characters, List.cons_append, List.append_assoc, List.singleton_append]
  cases each with
  | nil =>
    rw [readValue]
    rfl
  | @cons field part fields parts here others =>
    obtain ⟨more, quote⟩ := here.begins
    obtain ⟨more, quote⟩ := exists_chars_joined quote parts
    -- No name decides over an entry in front of it, so the entries are the mapping.
    have read : readEntries fuel room (_ ++ '\x7d' :: rest) = _ :=
      readEntries_joined (.cons here others) (List.cons_ne_nil _ _) (by omega)
    rw [quote, List.cons_append] at read ⊢
    rw [readValue_brace read, Value.mapping_entries once]
    rfl

/-- The items of a list are written one by one. -/
theorem forall₂_of_formsWithin (written : formsWithin items room = .ok parts) :
    List.Forall₂ (fun item part => formWithin item room = .ok part) items parts := by
  induction items generalizing parts with
  | nil =>
    -- The forms were written item by item.
    cases written
    exact .nil
  | cons item items ih =>
    rw [formsWithin] at written
    obtain ⟨here, first, others, walked, rfl⟩ := Result.bind_bind_pure_eq_ok.mp written
    exact .cons first (ih walked)

/-- So are the entries of an object. -/
theorem forall₂_of_entryFormsWithin (written : entryFormsWithin (Value.entries fields) room = .ok parts) :
    List.Forall₂ (fun field part => ∃ here, formWithin field.2 room = .ok here ∧
      part = textForm field.1 ++ ": " ++ here) fields parts := by
  induction fields generalizing parts with
  -- The names can be written, so what remains is as for items.
  | nil =>
    cases written
    exact .nil
  | cons field fields ih =>
    rw [Value.entries, List.map_cons, entryFormsWithin] at written
    obtain ⟨name, named, written⟩ := Result.bind_eq_ok.mp written
    cases named
    obtain ⟨here, first, others, walked, rfl⟩ := Result.bind_bind_pure_eq_ok.mp written
    exact .cons ⟨here, first, rfl⟩ (ih walked)

/-- What is written of a value is read as this value. -/
theorem decodes_formWithin (json : v.IsJson) {room : Nat} {text : Text}
    (written : formWithin v room = .ok text) : Decodes room v text := by
  -- The reader goes into a value as the writer does, with the same room at each depth.
  induction json generalizing room text with
  | null =>
    cases written
    exact decodes_word rfl rfl rfl fun rest => rfl
  | bool b =>
    cases written
    cases b <;> exact decodes_word rfl rfl rfl fun rest => rfl
  | int i =>
    rw [formWithin] at written
    -- What was written can be written, so it has not too many digits to be read.
    have few : (Value.int i).isWritable = true := by
      by_contra many
      rw [Value.write, if_neg many] at written
      cases written
    rw [eq_of_write written]
    exact decodes_int few
  | @text s whole =>
    cases written
    have decodes : Decodes room (.text s.paired) (textForm s) := decodes_text s
    rwa [Text.paired_of_isWhole whole] at decodes
  | @list items each ih =>
    -- There was room for the brackets, and each part is the form of its item.
    rw [formWithin] at written
    obtain ⟨inner, parts, rfl, walked, rfl⟩ := exists_room written
    have each := (List.forall₂_and_left _ _).mpr ⟨ih, forall₂_of_formsWithin walked⟩
    exact decodes_list (each.imp fun _ _ ⟨decodes, written⟩ => decodes written)
  | @record fields once whole each ih =>
    rw [Value.record, formWithin] at written
    obtain ⟨inner, parts, rfl, walked, rfl⟩ := exists_room written
    have named := (List.forall₂_and_left _ _).mpr ⟨whole, forall₂_of_entryFormsWithin walked⟩
    have each := (List.forall₂_and_left _ _).mpr ⟨ih, named⟩
    exact decodes_record once (each.imp fun _ _ ⟨decodes, whole, here, written, same⟩ =>
      ⟨whole, here, decodes written, same⟩)

/-- What is read wherever it stands is read alone, if it is in ASCII. -/
theorem Decodes.read_eq {text : Text} (decodes : Decodes depthLimit v text) (ascii : text.IsAscii) :
    Json.read text.chars = .ok v := by
  obtain ⟨c, more, begins, shown, _⟩ := decodes.opens
  have noMark : ¬ (text.chars.head? == some '\uFEFF') = true := by
    -- The mark is no ASCII.
    rw [begins]
    intro mark
    obtain rfl := Option.some.inj (eq_of_beq mark)
    rw [← Text.ofChars_chars ascii, Text.isAscii_ofChars, begins, List.forall_mem_cons] at ascii
    exact absurd ascii.1 (by decide)
  have start : skipBlank text.chars = text.chars := by rw [begins, skipBlank_cons shown]
  have enough : 2 * text.length ≤ 2 * text.chars.length + 2 := by
    rw [Text.length_chars]
    omega
  -- The reader starts with enough fuel and as much room as the writer, and nothing follows the value.
  have whole : readValue _ depthLimit (text.chars ++ []) = _ := decodes.read nofun enough
  rw [List.append_nil] at whole
  rw [Json.read, readDocument, if_neg noMark, start, whole]
  rfl

/-- A value that is written as JSON is read from what was written. -/
theorem read_form {text : Text} (json : v.IsJson) (written : form v = .ok text) : read text.chars = .ok v :=
  (decodes_formWithin json written).read_eq (isAscii_form written)

end Json

end KeyCluster

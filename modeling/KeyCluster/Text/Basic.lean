/-! Texts as sequences of code points. Beside characters a text can hold surrogates that stand alone, since
escapes in documents can name them. -/

namespace KeyCluster

/-- A code point of a text. -/
inductive CodePoint where
  | char (c : Char)
  /-- A surrogate that stands alone, told by its distance from the first one. -/
  | surrogate (s : Fin 0x800)
  deriving DecidableEq, Repr, Inhabited

namespace CodePoint

/-- The number of a code point. -/
def number : CodePoint → Nat
  | char c => c.toNat
  | surrogate s => 0xD800 + s.val

/-- The code point of a number; there is one for every number below `0x110000`. -/
def ofNumber (n : Nat) : CodePoint :=
  if h : 0xD800 ≤ n ∧ n < 0xE000 then surrogate ⟨n - 0xD800, by omega⟩ else char (Char.ofNat n)

/-- Whether a code point is a character of a class. -/
def isIn (p : Char → Bool) : CodePoint → Bool
  | char c => p c
  | surrogate _ => false

/-- Code points are ordered by their numbers. -/
instance : LT CodePoint :=
  ⟨fun a b => a.number < b.number⟩

instance : DecidableLT CodePoint :=
  fun a b => inferInstanceAs (Decidable (a.number < b.number))

end CodePoint

/-- A text, as the sequence of its code points. -/
abbrev Text := List CodePoint

namespace Text

/-- The text of some characters. -/
def ofChars (characters : List Char) : Text :=
  characters.map .char

/-- The text of a string, which holds no surrogates. -/
def ofString (s : String) : Text :=
  ofChars s.toList

/-- Strings stand for their texts. -/
instance : Coe String Text :=
  ⟨ofString⟩

/-- The characters of a text, with the replacement character for each surrogate. -/
def chars (text : Text) : List Char :=
  text.map fun
    | .char c => c
    | .surrogate _ => '\uFFFD'

/-- A text as a string, with the replacement character for each surrogate. -/
def shown (text : Text) : String :=
  String.ofList text.chars

end Text

end KeyCluster

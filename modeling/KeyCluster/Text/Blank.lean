import KeyCluster.Text.Basic

/-! Blank characters: what separates words and is trimmed from the ends of a text. -/

namespace KeyCluster.Blank

/-- The blanks of ASCII that end a line or move along it. -/
def isAsciiBlank (c : Char) : Bool :=
  c == ' ' || (0x09 ≤ c.toNat && c.toNat ≤ 0x0D)

/-- The blanks beyond ASCII: the next line control, the fixed-width blanks and the separators. -/
def isWideBlank (c : Char) : Bool :=
  let n := c.toNat
  n == 0x85 || n == 0xA0 || n == 0x1680 || (0x2000 ≤ n && n ≤ 0x200A)
    || n == 0x2028 || n == 0x2029 || n == 0x202F || n == 0x205F || n == 0x3000

/-- Every blank: those of ASCII, its four information separators, and those beyond ASCII. -/
def isBlank (c : Char) : Bool :=
  isAsciiBlank c || (0x1C ≤ c.toNat && c.toNat ≤ 0x1F) || isWideBlank c

/-- A sequence without the members of a class at both of its ends. -/
def trim {α : Type} (drop : α → Bool) (text : List α) : List α :=
  -- Reversing turns the end of the text into a beginning.
  ((text.dropWhile drop).reverse.dropWhile drop).reverse

/-- Whether a text holds nothing but blanks. -/
def isAllBlank (text : Text) : Bool :=
  text.all (CodePoint.isIn isBlank)

/-- The pieces between the separators of a sequence, the empty ones included. -/
def pieces {α : Type} (separator : α → Bool) : List α → List (List α)
  | [] => [[]]
  | c :: rest =>
    let found := pieces separator rest
    if separator c then [] :: found
    else match found with
      | [] => [[c]]
      | piece :: others => (c :: piece) :: others

/-- The words of a sequence: its maximal runs without a separator, in order. -/
def words {α : Type} (separator : α → Bool) (text : List α) : List (List α) :=
  (pieces separator text).filter fun piece => !piece.isEmpty

end KeyCluster.Blank

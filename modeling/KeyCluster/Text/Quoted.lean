import KeyCluster.Text.Basic
import KeyCluster.Text.Digit
import KeyCluster.Text.Printable

/-! Quoted texts: a text between quotation marks, with escapes for what cannot stand there. -/

namespace KeyCluster.Quoted

/-- The mark around a text: single quotes, or double ones where that spares every escape. -/
def mark (text : Text) : Char :=
  if text.contains (.char '\'') && !text.contains (.char '"') then '"' else '\''

/-- The escape of a code point by its number, in the shortest of three widths. -/
def numeric (n : Nat) : List Char :=
  if n < 0x100 then '\\' :: 'x' :: Digit.hexText 2 n
  else if n < 0x10000 then '\\' :: 'u' :: Digit.hexText 4 n
  else '\\' :: 'U' :: Digit.hexText 8 n

/-- One character between quotes, where `shown` says which characters stand for themselves. -/
def escapeChar (shown : Char → Bool) (quote c : Char) : List Char :=
  if c == quote || c == '\\' then ['\\', c]
  else if c == '\t' then ['\\', 't']
  else if c == '\n' then ['\\', 'n']
  else if c == '\r' then ['\\', 'r']
  else if shown c then [c]
  else numeric c.toNat

/-- One code point between quotes; surrogates never stand for themselves. -/
def escape (shown : Char → Bool) (quote : Char) : CodePoint → List Char
  | .char c => escapeChar shown quote c
  | .surrogate s => numeric (CodePoint.surrogate s).number

/-- A text between quotes, where `shown` says which characters stand for themselves. -/
def quoteWith (shown : Char → Bool) (text : Text) : Text :=
  let quote := mark text
  Text.ofChars (quote :: text.flatMap (escape shown quote) ++ [quote])

/-- A text between quotes. -/
def quote (text : Text) : Text :=
  quoteWith Printable.isPrintable text

/-- Whether a character is printable in ASCII. -/
def isPlainAscii (c : Char) : Bool :=
  0x20 ≤ c.toNat && c.toNat < 0x7F

/-- A text between quotes, in ASCII only. -/
def quoteAscii (text : Text) : Text :=
  quoteWith isPlainAscii text

/-- Bytes between quotes, after a `b` that sets them apart from a text. -/
def quoteBytes (bytes : List UInt8) : Text :=
  -- A byte is the code point of its number, so ASCII shows as itself.
  .char 'b' :: quoteAscii (bytes.map fun byte => .char (Char.ofNat byte.toNat))

end KeyCluster.Quoted

/-! Reading base64, leniently: characters outside the alphabet are passed over. -/

namespace KeyCluster.Base64

/-- The six bits that a character of the alphabet stands for. -/
def sextet? (c : Char) : Option Nat :=
  if 'A' ≤ c && c ≤ 'Z' then some (c.toNat - 'A'.toNat)
  else if 'a' ≤ c && c ≤ 'z' then some (c.toNat - 'a'.toNat + 26)
  else if '0' ≤ c && c ≤ '9' then some (c.toNat - '0'.toNat + 52)
  else if c == '+' then some 62
  else if c == '/' then some 63
  else none

/-- Reading from inside a group of four characters: `filled` of them are read, `left` holds the bits
that no byte has taken yet, and `pads` padding signs have followed. The result is nothing where the
text ends inside a group. -/
def decodeFrom : (filled left pads : Nat) → List Char → Option (List UInt8)
  | filled, _, _, [] => if filled == 0 then some [] else none
  | filled, left, pads, c :: rest =>
    if c == '=' then
      -- A group of two or three characters ends with as many signs as it lacks, and so does the text.
      if 2 ≤ filled && 4 ≤ filled + pads + 1 then some []
      else decodeFrom filled left (if 2 ≤ filled then pads + 1 else pads) rest
    else match sextet? c with
      | none => decodeFrom filled left pads rest
      | some bits =>
        match filled with
        | 0 => decodeFrom 1 bits 0 rest
        | 1 => (decodeFrom 2 (bits % 16) 0 rest).map (UInt8.ofNat (left * 4 + bits / 16) :: ·)
        | 2 => (decodeFrom 3 (bits % 4) 0 rest).map (UInt8.ofNat (left * 16 + bits / 4) :: ·)
        | _ => (decodeFrom 0 0 0 rest).map (UInt8.ofNat (left * 64 + bits) :: ·)

/-- The bytes that a text stands for, or nothing if its last group is not complete. -/
def decode? (text : List Char) : Option (List UInt8) :=
  decodeFrom 0 0 0 text

end KeyCluster.Base64

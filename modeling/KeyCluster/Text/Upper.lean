import KeyCluster.Text.Basic

/-! Capital letters, as far as words spelled in ASCII capitals can show them. -/

namespace KeyCluster.Upper

/-- The capital form of a letter whose capital is spelled in ASCII; any other character stays.
The letters beyond ASCII among them are the dotless i, the long s, the sharp s and the ligatures. -/
def capital (c : Char) : List Char :=
  if 'a' ≤ c && c ≤ 'z' then [Char.ofNat (c.toNat - 32)]
  else match c.toNat with
    | 0xDF => ['S', 'S']
    | 0x131 => ['I']
    | 0x17F => ['S']
    | 0xFB00 => ['F', 'F']
    | 0xFB01 => ['F', 'I']
    | 0xFB02 => ['F', 'L']
    | 0xFB03 => ['F', 'F', 'I']
    | 0xFB04 => ['F', 'F', 'L']
    | 0xFB05 => ['S', 'T']
    | 0xFB06 => ['S', 'T']
    | _ => [c]

/-- A text in capitals. -/
def capitals (text : Text) : Text :=
  text.flatMap fun
    | .char c => Text.ofChars (capital c)
    | .surrogate s => [.surrogate s]

end KeyCluster.Upper

/-! Reading UTF-8: strictly, or with a replacement character for what is not UTF-8. -/

namespace KeyCluster.Utf8

/-- What is wrong with bytes that are not UTF-8. -/
inductive Defect where
  /-- No character begins with this byte. -/
  | start
  /-- The character breaks off before its last byte. -/
  | continuation
  /-- The bytes end inside a character. -/
  | ending
  deriving DecidableEq, Repr

/-- What stands at the front of a byte sequence. -/
inductive Front where
  /-- A whole character, and how many bytes it takes. -/
  | char (c : Char) (width : Nat)
  /-- Bytes that are not UTF-8, and how many of them belong together. -/
  | broken (defect : Defect) (width : Nat)

/-- Whether a byte lies in a range. -/
def within (low high byte : UInt8) : Bool :=
  low ≤ byte && byte ≤ high

/-- Whether a byte can follow inside a character. -/
def isTail (byte : UInt8) : Bool :=
  within 0x80 0xBF byte

/-- The range of the second byte after a first one, which excludes long forms and surrogates. -/
def secondRange (first : UInt8) : UInt8 × UInt8 :=
  if first == 0xE0 then (0xA0, 0xBF)
  else if first == 0xED then (0x80, 0x9F)
  else if first == 0xF0 then (0x90, 0xBF)
  else if first == 0xF4 then (0x80, 0x8F)
  else (0x80, 0xBF)

/-- The six bits that a following byte carries. -/
def low (byte : UInt8) : Nat :=
  byte.toNat % 64

/-- The front of a sequence whose first byte announces a character of two bytes. -/
def front2 (a : UInt8) : List UInt8 → Front
  | [] => .broken .ending 1
  | b :: _ =>
    if isTail b then .char (Char.ofNat (a.toNat % 32 * 64 + low b)) 2
    else .broken .continuation 1

/-- The front of a sequence whose first byte announces a character of three bytes. -/
def front3 (a : UInt8) : List UInt8 → Front
  | [] => .broken .ending 1
  | b :: rest =>
    -- The second byte has a narrower range after some first ones.
    if !within (secondRange a).1 (secondRange a).2 b then .broken .continuation 1
    else match rest with
      | [] => .broken .ending 2
      | c :: _ =>
        if isTail c then .char (Char.ofNat ((a.toNat % 16 * 64 + low b) * 64 + low c)) 3
        else .broken .continuation 2

/-- The front of a sequence whose first byte announces a character of four bytes. -/
def front4 (a : UInt8) : List UInt8 → Front
  | [] => .broken .ending 1
  | b :: rest =>
    if !within (secondRange a).1 (secondRange a).2 b then .broken .continuation 1
    else match rest with
      | [] => .broken .ending 2
      | c :: rest =>
        if !isTail c then .broken .continuation 2
        else match rest with
          | [] => .broken .ending 3
          | d :: _ =>
            if isTail d then
              .char (Char.ofNat (((a.toNat % 8 * 64 + low b) * 64 + low c) * 64 + low d)) 4
            else .broken .continuation 3

/-- The front of a sequence that begins with the byte `a`. -/
def front (a : UInt8) (rest : List UInt8) : Front :=
  if a < 0x80 then .char (Char.ofNat a.toNat) 1
  -- The first bytes in between would write a character in more bytes than it needs.
  else if within 0xC2 0xDF a then front2 a rest
  else if within 0xE0 0xEF a then front3 a rest
  else if within 0xF0 0xF4 a then front4 a rest
  else .broken .start 1

/-- Where bytes stop being UTF-8. -/
structure Breach where
  defect : Defect
  offset : Nat
  width : Nat
  byte : UInt8
  deriving DecidableEq, Repr

/-- Strict reading with a bound on the number of characters left to read. -/
def decodeFrom : (bound : Nat) → (offset : Nat) → List UInt8 → Except Breach (List Char)
  | 0, _, _ => .ok []
  | _ + 1, _, [] => .ok []
  | bound + 1, offset, a :: rest =>
    match front a rest with
    | .broken defect width => .error { defect, offset, width, byte := a }
    | .char c width =>
      (decodeFrom bound (offset + width) ((a :: rest).drop width)).map (c :: ·)

/-- The characters that bytes encode, or where they are not UTF-8. -/
def decode (bytes : List UInt8) : Except Breach (List Char) :=
  -- Every character takes at least one byte, so their number bounds the reading.
  decodeFrom bytes.length 0 bytes

/-- Lossy reading with a bound on the number of characters left to read. -/
def decodeLossyFrom : (bound : Nat) → List UInt8 → List Char
  | 0, _ => []
  | _ + 1, [] => []
  | bound + 1, a :: rest =>
    match front a rest with
    | .broken _ width => Char.ofNat 0xFFFD :: decodeLossyFrom bound ((a :: rest).drop width)
    | .char c width => c :: decodeLossyFrom bound ((a :: rest).drop width)

/-- The characters that bytes encode, with a replacement character for each part that is not UTF-8. -/
def decodeLossy (bytes : List UInt8) : List Char :=
  decodeLossyFrom bytes.length bytes

end KeyCluster.Utf8

import KeyCluster.Text.Basic

/-! References to variables inside texts: a dollar sign with a name in braces, and perhaps a fallback. -/

namespace KeyCluster

/-- A reference to a variable. -/
structure Reference where
  name : Text
  /-- The text that stands in where the variable is not set. -/
  fallback : Option Text
  deriving DecidableEq, Repr

/-- A part of a text: a code point that stands for itself, or a reference. -/
inductive Piece where
  | point (c : CodePoint)
  | reference (r : Reference)
  deriving DecidableEq, Repr

namespace Reference

/-- Whether a name can begin with a code point. -/
def isNameStart : CodePoint → Bool :=
  CodePoint.isIn fun c => c.isAlpha || c == '_'

/-- Whether a name can go on with a code point. -/
def isNameChar : CodePoint → Bool :=
  CodePoint.isIn fun c => c.isAlphanum || c == '_'

/-- The reference that closes after its name: at once, or with a fallback before the closing brace. -/
def close? (name : Text) : Text → Option (Reference × Text)
  | .char '\x7d' :: rest => some ({ name, fallback := none }, rest)
  | .char ':' :: .char '-' :: rest =>
    match rest.dropWhile (· != .char '\x7d') with
    | [] => none
    | _ :: after =>
      let fallback := rest.takeWhile (· != .char '\x7d')
      some ({ name, fallback := some fallback }, after)
  | _ => none

/-- The reference that a text begins with, and the text after it. -/
def read? : Text → Option (Reference × Text)
  | .char '$' :: .char '\x7b' :: c :: rest =>
    if isNameStart c then close? (c :: rest.takeWhile isNameChar) (rest.dropWhile isNameChar)
    else none
  | _ => none

/-- What follows a closed reference is shorter than what it was read from. -/
theorem close?_shorter {name text rest : Text} {r : Reference}
    (closed : close? name text = some (r, rest)) : rest.length < text.length := by
  unfold close? at closed
  split at closed
  · obtain ⟨_, rfl⟩ := Prod.mk.inj (Option.some.inj closed)
    simp
  · next tail =>
    -- The fallback goes up to the first brace that closes, and that brace is read too.
    have := (List.dropWhile_suffix (· != .char '\x7d') (l := tail)).length_le
    split at closed
    · cases closed
    · next left =>
      obtain ⟨_, rfl⟩ := Prod.mk.inj (Option.some.inj closed)
      simp only [left, List.length_cons] at this ⊢
      omega
  · cases closed

/-- What follows a reference is shorter than what it was read from. -/
theorem read?_shorter {text rest : Text} {r : Reference} (found : read? text = some (r, rest)) :
    rest.length < text.length := by
  unfold read? at found
  split at found
  · split at found
    · next c tail _ =>
      -- Behind the name there is no more than behind the dollar sign and the brace.
      have := close?_shorter found
      have := (List.dropWhile_suffix isNameChar (l := tail)).length_le
      simp only [List.length_cons]
      omega
    · cases found
  · cases found

end Reference

/-- The parts of a text, with the leftmost references that do not overlap. -/
def Piece.ofText : Text → List Piece
  | [] => []
  | c :: rest =>
    match _found : Reference.read? (c :: rest) with
    | some (r, after) => .reference r :: ofText after
    | none => .point c :: ofText rest
  termination_by text => text.length
  decreasing_by
    · exact Reference.read?_shorter ‹_›
    · simp

end KeyCluster

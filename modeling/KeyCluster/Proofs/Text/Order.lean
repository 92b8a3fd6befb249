import KeyCluster.Text.Basic

/-! Code points, and with them texts, are ordered strictly and totally. -/

namespace KeyCluster.CodePoint

/-- No character has the number of a surrogate. -/
theorem number_char_ne (c : Char) (s : Fin 0x800) : c.toNat ≠ 0xD800 + s.val := by
  -- The numbers of characters leave out exactly the range that surrogates fill.
  intro same
  have valid : c.toNat.isValidChar := c.valid
  have small := s.isLt
  unfold Nat.isValidChar at valid
  omega

/-- Code points differ when their numbers differ. -/
theorem number_injective : Function.Injective number := by
  intro a b same
  -- Characters and surrogates are each told by their numbers, and their ranges are apart.
  cases a with
  | char c =>
    cases b with
    | char d => exact congrArg char (Char.toNat_inj.mp same)
    | surrogate s => exact absurd same (number_char_ne c s)
  | surrogate s =>
    cases b with
    | char d => exact absurd same.symm (number_char_ne d s)
    | surrogate t => exact congrArg surrogate (Fin.ext (Nat.add_left_cancel same))

instance : Std.Asymm (· < · : CodePoint → CodePoint → Prop) where
  -- The order is that of the numbers.
  asymm _ _ := Nat.lt_asymm

instance : Std.Trichotomous (· < · : CodePoint → CodePoint → Prop) where
  -- Numbers that are neither less nor more are the same, and so are their code points.
  trichotomous _ _ notLess notMore :=
    number_injective (Nat.le_antisymm (Nat.not_lt.mp notMore) (Nat.not_lt.mp notLess))

instance : Trans (· < · : CodePoint → CodePoint → Prop) (· < ·) (· < ·) where
  trans := Nat.lt_trans

end KeyCluster.CodePoint

namespace KeyCluster.Text

/-- Of two texts that differ, one comes before the other. -/
theorem lt_of_not_lt_of_ne {a b : Text} (notLess : ¬ a < b) (differ : a ≠ b) : b < a := by
  -- Otherwise each would be at most the other, and the order identifies them.
  apply Classical.byContradiction
  intro notMore
  exact differ (List.le_antisymm (List.not_lt.mp notMore) (List.not_lt.mp notLess))

end KeyCluster.Text

import KeyCluster.Number.Double
import Mathlib.Algebra.Group.Nat.Defs

/-! The parts of a double: what its bits say, and how doubles compare by them. -/

namespace KeyCluster.Double

open Float.Model

/-- Whether a sign is that of numbers below zero. -/
def isMinus : UnpackedFloat.Sign → Bool
  | .negative => true
  | .positive => false

/-- What a double stands for whose parts are known. -/
def View.ofParts : UnpackedFloat → View
  | .notANumber => .nan
  | .infinity sign => .infinite (isMinus sign)
  -- Zero belongs to the least exponent.
  | .zero sign => .finite (isMinus sign) 0 (-1074)
  | .finite sign mantissa exponent _ => .finite (isMinus sign) mantissa exponent

/-- A number above or below zero stands for itself. -/
theorem View.ofParts_finite {sign : UnpackedFloat.Sign} {mantissa : Nat} {exponent : Int}
    {digits : 0 < mantissa} :
    ofParts (.finite sign mantissa exponent digits) = .finite (isMinus sign) mantissa exponent :=
  rfl

/-- The sign is negative where its bit is set. -/
theorem isMinus_ofBitVec (bit : BitVec 1) : isMinus (.ofBitVec bit) = (bit.toNat == 1) := by
  revert bit
  decide

/-- The last 52 bits are the fraction. -/
theorem toNat_unpackMantissa (bits : BitVec 64) :
    (@UnpackedFloat.unpackMantissa Format.binary64 bits).toNat = bits.toNat % 2 ^ 52 := by
  simp [UnpackedFloat.unpackMantissa, BitVec.extractLsb_toNat]

/-- The 11 bits in front of them are the exponent. -/
theorem toNat_unpackExponent (bits : BitVec 64) :
    (@UnpackedFloat.unpackExponent Format.binary64 bits).toNat =
      bits.toNat / 2 ^ 52 % 2 ^ 11 := by
  simp [UnpackedFloat.unpackExponent, BitVec.extractLsb_toNat, Nat.shiftRight_eq_div_pow]

/-- The first bit is the sign. -/
theorem toNat_unpackSign (bits : BitVec 64) :
    (@UnpackedFloat.unpackSign Format.binary64 bits).toNat = bits.toNat / 2 ^ 63 := by
  have bound := bits.isLt
  change (BitVec.extractLsb 63 63 bits).toNat = _
  rw [BitVec.extractLsb_toNat, Nat.shiftRight_eq_div_pow]
  omega

/-- The fraction of a normal number with its hidden bit. -/
theorem toNat_withHiddenBit (bits : BitVec 64) :
    (1#1 ++ @UnpackedFloat.unpackMantissa Format.binary64 bits).toNat =
      bits.toNat % 2 ^ 52 + 2 ^ 52 := by
  -- The hidden bit stands in front of all others, so it adds its weight.
  rw [BitVec.toNat_append, toNat_unpackMantissa,
    ← Nat.shiftLeft_add_eq_or_of_lt (Nat.mod_lt _ (by decide))]
  simp [Nat.shiftLeft_eq, Nat.add_comm]

/-- What is read off the bits of a double is what its parts say. -/
theorem view_eq (x : Float) : view x = .ofParts x.toModel.unpack := by
  let bits : BitVec 64 := x.toBits.toBitVec
  have fields : x.toModel.unpack = UnpackedFloat.unpack Format.binary64 bits := rfl
  have number : x.toBits.toNat = bits.toNat := rfl
  -- Each field of the bits is a number that both sides look at.
  have full : @UnpackedFloat.unpackExponent Format.binary64 bits = -1#_ ↔
      (bits.toNat / Nat.pow 2 52 % 2048 == 2047) = true := by
    rw [beq_iff_eq, ← BitVec.toNat_inj, toNat_unpackExponent]
    rfl
  have least : @UnpackedFloat.unpackExponent Format.binary64 bits = 0#_ ↔
      (bits.toNat / Nat.pow 2 52 % 2048 == 0) = true := by
    rw [beq_iff_eq, ← BitVec.toNat_inj, toNat_unpackExponent]
    rfl
  have whole : @UnpackedFloat.unpackMantissa Format.binary64 bits = 0#_ ↔
      bits.toNat % Nat.pow 2 52 = 0 := by
    rw [← BitVec.toNat_inj, toNat_unpackMantissa]
    rfl
  have sign : isMinus (.ofBitVec (@UnpackedFloat.unpackSign Format.binary64 bits)) =
      (bits.toNat / Nat.pow 2 63 == 1) := by
    rw [isMinus_ofBitVec, toNat_unpackSign]
    rfl
  have hidden := toNat_withHiddenBit bits
  rw [fields]
  unfold view UnpackedFloat.unpack
  dsimp only
  rw [number, ← sign]
  -- Both sides ask the same questions in the same order: for the largest exponent, for the least one, and
  -- for a fraction of zero.
  by_cases top : @UnpackedFloat.unpackExponent Format.binary64 bits = -1#_
  · rw [if_pos top, if_pos (full.mp top)]
    by_cases empty : @UnpackedFloat.unpackMantissa Format.binary64 bits = 0#_
    · rw [if_pos empty, if_pos (beq_iff_eq.mpr (whole.mp empty))]
      rfl
    · rw [if_neg empty, if_neg (mt beq_iff_eq.mp (mt whole.mpr empty))]
      rfl
  rw [if_neg top, if_neg (mt full.mpr top)]
  by_cases bottom : @UnpackedFloat.unpackExponent Format.binary64 bits = 0#_
  · rw [if_pos bottom, if_pos (least.mp bottom)]
    by_cases empty : @UnpackedFloat.unpackMantissa Format.binary64 bits = 0#_
    · rw [dif_pos empty, whole.mp empty]
      rfl
    · rw [dif_neg empty, View.ofParts_finite, toNat_unpackMantissa, bottom]
      rfl
  · rw [if_neg bottom, if_neg (mt least.mpr bottom), View.ofParts_finite, hidden, toNat_unpackExponent]
    rfl

/-- Only what is no number has no view as one. -/
theorem view_eq_nan {x : Float} : view x = .nan ↔ x.toModel.unpack = .notANumber := by
  rw [view_eq]
  cases x.toModel.unpack with
  -- No other parts have this view.
  | notANumber => exact ⟨fun _ => rfl, fun _ => rfl⟩
  | _ => constructor <;> rintro ⟨⟩

/-- Comparing the other way round turns the result round. -/
theorem compare_swap (a b : UnpackedFloat) : b.compare a = (a.compare b).map Ordering.swap := by
  have turned (s t : UnpackedFloat.Sign) : compare t s = (compare s t).swap := by
    -- There are only two signs.
    cases s <;> cases t <;> rfl
  cases a with
  | finite s m e _ =>
    cases b with
    | finite t n f _ =>
      -- Of two numbers on one side of zero the exponents decide, and then the digits.
      have exponents : compare f e = (compare e f).swap := Std.OrientedOrd.eq_swap
      have digits : compare n m = (compare m n).swap := Std.OrientedOrd.eq_swap
      have both : (compare f e).then (compare n m) = ((compare e f).then (compare m n)).swap := by
        rw [Ordering.swap_then, exponents, digits]
      cases s with
      | positive => cases t with
        | positive => exact congrArg some both
        | negative => rfl
      | negative => cases t with
        | positive => rfl
        | negative => exact congrArg (fun order => some order.swap) both
    | infinity t => cases s <;> cases t <;> rfl
    | zero t => cases s <;> rfl
    | notANumber => rfl
  | infinity s =>
    cases b with
    | infinity t => exact congrArg some (turned s t)
    | finite t n f _ => cases s <;> cases t <;> rfl
    | zero t => cases s <;> rfl
    | notANumber => rfl
  | zero s =>
    cases b with
    | finite t n f _ => cases t <;> rfl
    | infinity t => cases t <;> rfl
    | zero t => rfl
    | notANumber => rfl
  | notANumber => cases b <;> rfl

/-- Everything that is a number compares with every other number. -/
theorem compare_eq_none {a b : UnpackedFloat} :
    a.compare b = none ↔ a = .notANumber ∨ b = .notANumber := by
  constructor
  · intro apart
    cases a with
    -- What is left are pairs of numbers, which all have a result.
    | notANumber => exact .inl rfl
    | finite s m e _ => cases b with
      | notANumber => exact .inr rfl
      | finite t n f _ | infinity t => cases s <;> cases t <;> cases apart
      | zero t => cases s <;> cases apart
    | infinity s => cases b with
      | notANumber => exact .inr rfl
      | _ => cases s <;> cases apart
    | zero s => cases b with
      | notANumber => exact .inr rfl
      | finite t n f _ | infinity t => cases t <;> cases apart
      | zero t => cases apart
  · rintro (rfl | rfl)
    · rfl
    · cases a <;> rfl

/-- A double is less than another where its parts say so. -/
theorem lt_iff {x y : Float} : x < y ↔ x.toModel.unpack.compare y.toModel.unpack = some .lt := by
  -- Doubles are compared through their parts, so both sides are one computation.
  change decide (x.toModel < y.toModel) = true ↔ _
  rw [decide_eq_true_iff]
  change (x.toModel.unpack.compare y.toModel.unpack == some .lt) = true ↔ _
  rw [beq_iff_eq]

/-- A double equals another where its parts say so. -/
theorem beq_iff {x y : Float} :
    (x == y) = true ↔ x.toModel.unpack.compare y.toModel.unpack = some .eq := by
  change (x.toModel.unpack.compare y.toModel.unpack == some .eq) = true ↔ _
  rw [beq_iff_eq]

/-- Doubles compare as their parts do. -/
theorem compareDouble_eq (x y : Float) :
    compareDouble x y = x.toModel.unpack.compare y.toModel.unpack := by
  unfold compareDouble
  simp only [lt_iff, beq_iff, compare_swap x.toModel.unpack y.toModel.unpack]
  cases x.toModel.unpack.compare y.toModel.unpack with
  | none => rfl
  | some order => cases order <;> rfl

/-- A double above zero is more than the integer zero. -/
theorem compareInt_zero_of_pos {x : Float} (positive : 0 < x) : compareInt x 0 = some .gt := by
  have above : (UnpackedFloat.zero .positive).compare x.toModel.unpack = some .lt := lt_iff.mp positive
  unfold compareInt
  rw [view_eq]
  cases parts : x.toModel.unpack with
  -- Only two kinds of parts are above zero: the infinite and the finite ones without a minus.
  | notANumber | zero sign =>
    rw [parts] at above
    cases above
  | infinity sign =>
    cases sign with
    | negative =>
      rw [parts] at above
      cases above
    | positive => rfl
  | finite sign mantissa exponent digits =>
    cases sign with
    | negative =>
      rw [parts] at above
      cases above
    | positive =>
      have size : 0 < mantissa * 2 ^ exponent.toNat := Nat.mul_pos digits (Nat.two_pow_pos _)
      rw [View.ofParts_finite]
      simp only [isMinus, quotient, signed, Nat.pow_eq, Int.zero_mul, Bool.false_eq_true, if_false]
      rw [Option.some_inj, Int.compare_eq_gt]
      exact_mod_cast size

/-- Only what is no number does not compare with an integer. -/
theorem compareInt_eq_none {x : Float} {i : Int} : compareInt x i = none ↔ view x = .nan := by
  unfold compareInt
  cases view x <;> simp

end KeyCluster.Double

import KeyCluster.Json.Reader
import Mathlib.Data.List.Chain

/-! Halves of pairs in texts. JSON does not tell two halves that stand side by side from the character that is
written as the pair. -/

namespace KeyCluster

/-- Two code points that are the halves of a pair. -/
def CodePoint.isPair (a b : CodePoint) : Bool :=
  Json.isHigh a.number && Json.isLow b.number

namespace Text

/-- A text in which halves that stand side by side are put together. -/
def paired : Text → Text
  | [] => []
  | [a] => [a]
  | a :: b :: rest =>
    if a.isPair b then Json.ofPair a.number b.number :: paired rest else a :: paired (b :: rest)

/-- No half stands side by side with the one that makes a pair with it. -/
def HasNoSplit (text : Text) : Prop :=
  text.IsChain fun a b => a.isPair b = false

variable {a b : CodePoint} {text rest : Text}

theorem paired_of_isPair (pair : a.isPair b = true) :
    paired (a :: b :: rest) = Json.ofPair a.number b.number :: paired rest := by
  rw [paired, if_pos pair]

theorem paired_of_not_isPair (apart : a.isPair b = false) :
    paired (a :: b :: rest) = a :: paired (b :: rest) := by
  rw [paired, if_neg (by simp [apart])]

theorem length_paired_le (text : Text) : text.paired.length ≤ text.length := by
  -- Two code points become one, or one stays.
  induction text using paired.induct with
  | case1 | case2 => exact le_rfl
  | case3 a b rest pair ih =>
    rw [paired_of_isPair pair]
    simp only [List.length_cons]
    omega
  | case4 a b rest apart ih =>
    rw [paired_of_not_isPair (by simpa using apart)]
    simpa using ih

/-- A text is changed exactly where there is something to be put together. -/
theorem paired_eq_self_iff : text.paired = text ↔ text.HasNoSplit := by
  unfold HasNoSplit
  induction text using paired.induct with
  | case1 => simp [paired]
  | case2 => simp [paired]
  | case3 a b rest pair ih =>
    rw [paired_of_isPair pair, List.isChain_cons_cons]
    -- A pair is shortened, so the text cannot stay the same.
    constructor
    · intro same
      have shorter := length_paired_le rest
      have lengths := congrArg List.length same
      simp only [List.length_cons] at lengths
      omega
    · rintro ⟨apart, _⟩
      cases pair.symm.trans apart
  | case4 a b rest apart ih =>
    have apart : a.isPair b = false := by simpa using apart
    rw [paired_of_not_isPair apart, List.isChain_cons_cons, List.cons.injEq, ih]
    simp [apart]

end Text

end KeyCluster

import KeyCluster.Value.Fault

/-! Why a template cannot be filled. -/

namespace KeyCluster

/-- What is wrong with a template or with the values for it; a letter tells the conversion, and a kind the shape
of a value. -/
inductive TemplateFault where
  | incomplete
  | incompleteKey
  | hugeWidth
  | hugePrecision
  | hugeWidthValue
  | hugePrecisionValue
  /-- There is no conversion with this letter, which stands at this place. -/
  | unsupported (letter : CodePoint) (place : Nat)
  | needsMapping
  | missingKey (key : Text)
  | tooFew
  | tooMany
  | starNotInteger
  /-- A value of this shape has no integer part for the conversion with this letter. -/
  | notReal (letter : Char) (kind : Value.Kind)
  /-- A value of this shape is no integer, which the conversion with this letter demands. -/
  | notInteger (letter : Char) (kind : Value.Kind)
  | notNumber (kind : Value.Kind)
  | notCharacter
  | noCharacter
  | value (fault : ValueFault)
  | largePrecision
  /-- A width leaves no room for anything else. -/
  | noRoom

namespace TemplateFault

/-- The kind of failure that a fault is. -/
def kind : TemplateFault → FailureKind
  | incomplete | incompleteKey | hugeWidth | hugePrecision | unsupported _ _ => .badValue
  | missingKey _ => .missingKey
  | noCharacter | hugeWidthValue | hugePrecisionValue | largePrecision => .overflow
  | noRoom => .foreign { name := "MemoryError" }
  | value fault => fault.kind
  | _ => .wrongShape

/-- How a letter is shown in a message: only printable ASCII as itself. -/
def shown (letter : CodePoint) : Text :=
  [if 31 ≤ letter.number && letter.number ≤ 126 then letter else .char '?']

/-- What a message says about a fault. -/
def message : TemplateFault → Text
  | incomplete => "incomplete format"
  | incompleteKey => "incomplete format key"
  | hugeWidth => "width too big"
  | hugePrecision => "precision too big"
  | hugeWidthValue => "Python int too large to convert to C ssize_t"
  | hugePrecisionValue => "Python int too large to convert to C int"
  | unsupported letter place => "unsupported format character '" ++ shown letter ++ "' (0x"
      ++ Text.ofChars (Nat.toDigits 16 letter.number) ++ ") at index " ++ Value.intText place
  | needsMapping => "format requires a mapping"
  | missingKey key => Quoted.quote key
  | tooFew => "not enough arguments for format string"
  | tooMany => "not all arguments converted during string formatting"
  | starNotInteger => "* wants int"
  | notReal letter kind =>
    "%" ++ letter.toString ++ " format: a real number is required, not " ++ kind.name
  | notInteger letter kind =>
    "%" ++ letter.toString ++ " format: an integer is required, not " ++ kind.name
  | notNumber kind => "must be real number, not " ++ kind.name
  | notCharacter => "%c requires int or char"
  | noCharacter => "%c arg not in range(0x110000)"
  | value fault => fault.message
  | largePrecision => "precision too large"
  | noRoom => ""

end TemplateFault

end KeyCluster

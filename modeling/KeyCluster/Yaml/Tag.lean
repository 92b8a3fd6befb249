import KeyCluster.Text.Digit

/-! Tags of nodes, and the tag that a plain text has by its form. -/

namespace KeyCluster.Yaml

/-- What a node is built into. -/
inductive Tag where
  | null
  | bool
  | int
  | float
  | string
  | binary
  | timestamp
  /-- The key under which mappings are merged. -/
  | merge
  /-- The key under which a mapping has a value of its own. -/
  | value
  | list
  | map
  | set
  /-- A list of pairs, each a mapping of one entry, whose keys differ. -/
  | orderedMap
  /-- A list of pairs, each a mapping of one entry. -/
  | pairs
  /-- Something that nothing is built into. -/
  | other (name : String)
  deriving DecidableEq, Repr

namespace Tag

/-- Where the names of the common tags begin. -/
def base : String :=
  "tag:yaml.org,2002:"

/-- The common tags by name. -/
def common : List (String × Tag) :=
  [("null", null), ("bool", bool), ("int", int), ("float", float), ("str", string), ("binary", binary),
    ("timestamp", timestamp), ("merge", merge), ("value", value), ("seq", list), ("map", map),
    ("set", set), ("omap", orderedMap), ("pairs", pairs)]

/-- The tag of a full name. -/
def ofName (name : String) : Tag :=
  match common.find? fun entry => base ++ entry.1 == name with
  | some entry => entry.2
  | none => other name

/-- The words that are truth values, in lower case. -/
def truths : List (String × Bool) :=
  [("yes", true), ("no", false), ("true", true), ("false", false), ("on", true), ("off", false)]

/-- A word in lower case, with a capital first letter, and in capitals. -/
def casings (word : String) : List String :=
  [word, String.ofList (match word.toList with
    | [] => []
    | c :: rest => c.toUpper :: rest), String.ofList (word.toList.map Char.toUpper)]

/-- Whether a text is a truth value. -/
def isTruth (text : String) : Bool :=
  truths.any fun truth => (casings truth.1).contains text

/-- Whether a text stands for nothing. -/
def isAbsent (text : String) : Bool :=
  text == "" || text == "~" || (casings "null").contains text

/-- A text without the sign that it may begin with. -/
def dropSign : List Char → List Char
  | '-' :: rest => rest
  | '+' :: rest => rest
  | rest => rest

/-- Whether a character is a digit or an underscore. -/
def isDigitMark (c : Char) : Bool :=
  c.isDigit || c == '_'

/-- The text after digits and underscores, the first of which is a digit. -/
def afterDigits? : List Char → Option (List Char)
  | c :: rest => if c.isDigit then some (rest.dropWhile isDigitMark) else none
  | [] => none

/-- Whether a text is one or two digits below sixty. -/
def isSixtieth : List Char → Bool
  | [a] => a.isDigit
  | [a, b] => '0' ≤ a && a ≤ '5' && b.isDigit
  | _ => false

/-- The text after sixtieths, each of which follows a colon. -/
def afterSixtieths : (fuel : Nat) → List Char → List Char
  | 0, text => text
  | fuel + 1, text =>
    match text with
    | ':' :: rest =>
      if isSixtieth (rest.takeWhile Char.isDigit) then afterSixtieths fuel (rest.dropWhile Char.isDigit)
      else text
    | _ => text

/-- Whether a text is an exponent, with its sign, or nothing. -/
def isExponent : List Char → Bool
  | [] => true
  | e :: sign :: digits =>
    (e == 'e' || e == 'E') && (sign == '-' || sign == '+') && !digits.isEmpty && digits.all Char.isDigit
  | _ => false

/-- Whether a text is a double in positions: digits, a point, and perhaps more. -/
def isPositional (text : List Char) : Bool :=
  match afterDigits? (dropSign text) with
  | some ('.' :: rest) => isExponent (rest.dropWhile isDigitMark)
  | _ => false

/-- Whether a text is a double that begins with its point. -/
def isFraction : List Char → Bool
  | '.' :: rest => match afterDigits? rest with
    | some rest => isExponent rest
    | none => false
  | _ => false

/-- Whether a text is a double in sixtieths. -/
def isSexagesimalDouble (text : List Char) : Bool :=
  match afterDigits? (dropSign text) with
  | some (':' :: rest) => match afterSixtieths text.length (':' :: rest) with
    | '.' :: rest => rest.all isDigitMark
    | _ => false
  | _ => false

/-- Whether a text is a word for an infinity or for no number. -/
def isDoubleWord (text : List Char) : Bool :=
  [".inf", ".Inf", ".INF"].contains (String.ofList (dropSign text))
    || [".nan", ".NaN", ".NAN"].contains (String.ofList text)

/-- Whether a text has the form of a double. -/
def isDouble (text : List Char) : Bool :=
  isPositional text || isFraction text || isSexagesimalDouble text || isDoubleWord text

/-- Whether a text is at least one character of a class. -/
def isRun (p : Char → Bool) (text : List Char) : Bool :=
  !text.isEmpty && text.all p

/-- Whether a text is a decimal integer, perhaps in sixtieths. -/
def isDecimal (text : List Char) : Bool :=
  match text with
  | ['0'] => true
  | c :: rest =>
    '1' ≤ c && c ≤ '9' && (afterSixtieths text.length (rest.dropWhile isDigitMark)).isEmpty
  | [] => false

/-- Whether a text has the form of an integer. -/
def isInteger (text : List Char) : Bool :=
  let size := dropSign text
  isDecimal size || match size with
    | '0' :: 'b' :: rest => isRun (fun c => c == '0' || c == '1' || c == '_') rest
    | '0' :: 'x' :: rest => isRun (fun c => (Digit.hex? c).isSome || c == '_') rest
    | '0' :: rest => isRun (fun c => ('0' ≤ c && c ≤ '7') || c == '_') rest
    | _ => false

end Tag

end KeyCluster.Yaml

import KeyCluster.Number.Numeral
import KeyCluster.Text.Digit
import KeyCluster.Text.Utf8
import KeyCluster.Yaml.Cursor
import KeyCluster.Yaml.Fault
import KeyCluster.Yaml.Token

/-! What stands before a node or a document: anchors, tags and directives. Each is read together with the
text after it. -/

namespace KeyCluster.Yaml.Heading

/-- Whether a name can hold a character. -/
def isNameChar (c : Char) : Bool :=
  c.isAlphanum || c == '-' || c == '_'

/-- Whether an address can hold a character. -/
def isAddressChar (c : Char) : Bool :=
  isNameChar c || ";/?:@&=+$,.!~*'()[]".toList.contains c

/-- The name of an anchor or alias. -/
def name (text : List Char) : Except Fault (String × List Char) :=
  let rest := text.dropWhile isNameChar
  let found := text.takeWhile isNameChar
  -- Some marks may stand right behind a name.
  let ends := endsWord rest || (rest.head?.any fun c => "?:,]\x7d%@`".toList.contains c)
  if found.isEmpty || !ends then .error (.malformed .anchorName)
  else .ok (String.ofList found, rest)

/-- The bytes of the escapes that a text begins with. -/
def escapes : List Char → Except Fault (List UInt8 × List Char)
  | '%' :: a :: b :: rest =>
    match Digit.hexNumber? [a, b] with
    | none => .error (.malformed .tag)
    | some n => do
      let (more, rest) ← escapes rest
      return (UInt8.ofNat n :: more, rest)
  | '%' :: _ => .error (.malformed .tag)
  | rest => .ok ([], rest)

/-- The characters of an address. Each step reads at least one of them, so `fuel` may be their number. -/
def addressFrom : (fuel : Nat) → List Char → Except Fault (List Char × List Char)
  | 0, text => .ok ([], text)
  | _ + 1, [] => .ok ([], [])
  | fuel + 1, c :: rest =>
    if c == '%' then do
      let (bytes, rest) ← escapes (c :: rest)
      -- Escapes are bytes, and those that stand together make characters together.
      match Utf8.decode bytes with
      | .error _ => throw (.malformed .tag)
      | .ok decoded =>
        let (more, rest) ← addressFrom fuel rest
        return (decoded ++ more, rest)
    else if isAddressChar c then do
      let (more, rest) ← addressFrom fuel rest
      return (c :: more, rest)
    else .ok ([], c :: rest)

/-- An address of at least one character. -/
def address (text : List Char) : Except Fault (String × List Char) := do
  let (found, rest) ← addressFrom text.length text
  if rest.length == text.length then throw (.malformed .tag)
  return (String.ofList found, rest)

/-- The handle before a tag: an exclamation mark, or a name between two. -/
def handle : List Char → Except Fault (String × List Char)
  | '!' :: rest =>
    if startsWith ' ' rest then .ok ("!", rest)
    else match rest.dropWhile isNameChar with
      | '!' :: after =>
        .ok (String.ofList ('!' :: rest.takeWhile isNameChar ++ ['!']), after)
      | _ => .error (.malformed .tag)
  | _ => .error (.malformed .tag)

/-- The parts of a tag after its exclamation mark. -/
def tagParts (rest : List Char) : Except Fault (Option String × String × List Char) :=
  match rest with
  | '<' :: more => do
    let (suffix, after) ← address more
    match after with
    | '>' :: after => return (none, suffix, after)
    | _ => throw (.malformed .tag)
  | rest =>
    if endsWord rest then .ok (none, "!", rest)
    else do
      -- A second exclamation mark in the same word ends a handle.
      let word := rest.takeWhile fun c => c != ' ' && !isBreak c
      let (found, after) ← if word.contains '!' then handle ('!' :: rest) else .ok ("!", rest)
      let (suffix, after) ← address after
      return (some found, suffix, after)

/-- The tag after an exclamation mark. -/
def tag (rest : List Char) : Except Fault (Token × List Char) := do
  let (handle, suffix, after) ← tagParts rest
  if endsField after then return (.tag handle suffix, after)
  else throw (.malformed .tag)

/-- The number that a text begins with. -/
def number (text : List Char) : Except Fault (Nat × List Char) :=
  match text.takeWhile Char.isDigit with
  | [] => .error (.malformed .directive)
  | digits =>
    if Numeral.digitLimit < digits.length then .error (.value (.tooManyDigits digits.length))
    else .ok (Numeral.ofDigits 10 digits, text.dropWhile Char.isDigit)

/-- The version in a directive. -/
def version (text : List Char) : Except Fault (Directive × List Char) := do
  let (major, rest) ← number (text.dropWhile (· == ' '))
  match rest with
  | '.' :: rest =>
    let (minor, rest) ← number rest
    return (.version major minor, rest)
  | _ => throw (.malformed .directive)

/-- The handle and its meaning in a directive. -/
def declaration (text : List Char) : Except Fault (Directive × List Char) := do
  let (found, rest) ← handle (text.dropWhile (· == ' '))
  if !startsWith ' ' rest then throw (.malformed .directive)
  let (expansion, rest) ← address (rest.dropWhile (· == ' '))
  return (.handle found expansion, rest)

/-- The directive after a percent sign, without what may still end its line. -/
def directive (text : List Char) : Except Fault (Directive × List Char) := do
  let found := String.ofList (text.takeWhile isNameChar)
  let rest := text.dropWhile isNameChar
  if found.isEmpty || !endsField rest then throw (.malformed .directive)
  if found != "YAML" && found != "TAG" then return (.other, rest.dropWhile fun c => !isBreak c)
  let (directive, rest) ← if found == "YAML" then version rest else declaration rest
  if endsField rest then return (directive, rest)
  else throw (.malformed .directive)

end KeyCluster.Yaml.Heading

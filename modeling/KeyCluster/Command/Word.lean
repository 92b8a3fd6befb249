import KeyCluster.Command.Switch
import KeyCluster.Text.Digit

/-! What the words of a command line are: switches, values, or neither. -/

namespace KeyCluster

/-- What a word of a command line is. -/
inductive Word where
  | plain
  /-- The mark after which nothing is a switch. -/
  | separator
  /-- A switch, in a short form or a long one, perhaps with text after it in the same word. -/
  | switch (switch : Switch) (short : Bool) (attached : Option Text)
  /-- Something written like a switch that is none. -/
  | unknown
  deriving DecidableEq, Repr

namespace Word

/-- The parts of a text before and after its first equals sign, if it has one. -/
def splitEquals (word : Text) : Text × Option Text :=
  match word.dropWhile (· != .char '=') with
  | [] => (word, none)
  | _ :: value => (word.takeWhile (· != .char '='), some value)

/-- A word as a switch that it fits, with the spelling that it fits. -/
abbrev Fit := Text × Word

/-- The switches that begin like a long word, each with its spelling. -/
def longFits (word : Text) : List Fit :=
  let (name, value) := splitEquals word
  (Switch.spellings.filter fun entry => name.isPrefixOf entry.1).map fun entry =>
    (entry.1, switch entry.2 false value)

/-- The switches whose short form a word begins with, the rest being the value, and those that begin like
the whole word. -/
def shortFits (word : Text) : List Fit :=
  Switch.spellings.filterMap fun entry =>
    if entry.1 == word.take 2 then some (entry.1, switch entry.2 true (some (word.drop 2)))
    else if word.isPrefixOf entry.1 then some (entry.1, switch entry.2 false none)
    else none

/-- Whether a code point is a decimal digit of any script. -/
def isDigit : CodePoint → Bool :=
  CodePoint.isIn fun c => (Digit.decimal? c).isSome

/-- Whether a text is a negative number: a hyphen and digits, with at most one point, before the last of
them at the latest. -/
def isNegativeNumber : Text → Bool
  | .char '-' :: text =>
    -- The end of a line at the end of a text does not count.
    let body := if text.getLast? == some (.char '\n') then text.dropLast else text
    match body.dropWhile isDigit with
    | [] => !body.isEmpty
    | .char '.' :: fraction => !fraction.isEmpty && fraction.all isDigit
    | _ => false
  | _ => false

/-- The word that is exactly a switch, or a switch with a value after an equals sign. -/
def whole? (word : Text) : Option Word :=
  let (name, value) := splitEquals word
  match Switch.spellings.lookup name with
  | some found => some (switch found (name.length == 2) value)
  | none => none

/-- What a word is. Switches may be cut short as long as only one of them fits. -/
def classify (word : Text) : Except Misuse Word :=
  match word with
  | .char '-' :: c :: _ =>
    -- A switch that is spelled out wins over those that only begin like it.
    match whole? word with
    | some found => .ok found
    | none => match if c == .char '-' then longFits word else shortFits word with
      | [fit] => .ok fit.2
      | [] =>
        if isNegativeNumber word || word.contains (.char ' ') then .ok plain else .ok unknown
      | fits => .error (.ambiguous word (fits.map (·.1)))
  | _ => .ok plain

/-- How the mark after which nothing is a switch is written. -/
def separatorText : Text :=
  "--"

/-- What the words of a command line are. -/
def classifyAll : List Text → Except Misuse (List (Text × Word))
  | [] => .ok []
  | word :: rest =>
    if word == separatorText then .ok ((word, separator) :: rest.map fun word => (word, plain))
    else do
      let here ← classify word
      return (word, here) :: (← classifyAll rest)

end Word

end KeyCluster

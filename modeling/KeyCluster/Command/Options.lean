import KeyCluster.Command.Word
import KeyCluster.Number.Numeral
import KeyCluster.Value.Basic

/-! What a command line asks for. -/

namespace KeyCluster

/-- What a command line asks for: only that the clusters of the servers are shown, only that the configuration
is checked, or else that the servers are joined; `α` is what is known about the path of the configuration. -/
structure Options (α : Type) where
  config : α
  status : Bool := false
  validate : Bool := false
  /-- How many seconds the whole operation may take, if that is limited. -/
  timeout : Value := .null

/-- Why a command line asks for nothing to be run. -/
inductive Stop where
  | help
  | misuse (fault : Misuse)
  deriving DecidableEq, Repr

namespace Options

/-- A switch with its value, if it has one. -/
abbrev Setting := Switch × Option Text

/-- What was read of a command line so far. -/
structure Draft where
  options : Options (Option Value) := { config := none }
  extras : List Text := []

/-- The value of a switch, which `read` makes of its text. The mark after which nothing is a switch is no
text of a value: a switch that is given it has no values at all. -/
def valueOf (read : Text → Except Stop Value) (text : Text) : Except Stop Value :=
  if text == Word.separatorText then .ok (.list []) else read text

/-- The number that the text of a time limit writes. -/
def readTimeout (text : Text) : Except Stop Value :=
  match Numeral.readFloat? text with
  | some seconds => .ok (.float seconds)
  | none => .error (.misuse (.notNumber .timeout text))

/-- What a switch and its value ask for, beside what was asked before. -/
def apply (options : Options (Option Value)) : Setting → Except Stop (Options (Option Value))
  | (.help, _) => .error .help
  | (.status, _) =>
    if options.validate then .error (.misuse (.conflict .status .validate))
    else .ok { options with status := true }
  | (.validate, _) =>
    if options.status then .error (.misuse (.conflict .validate .status))
    else .ok { options with validate := true }
  | (.config, text) => do
    return { options with config := ← valueOf (fun text => return .text text) (text.getD []) }
  | (.timeout, text) => do
    return { options with timeout := ← valueOf readTimeout (text.getD []) }

/-- What a word with switches comes to. -/
structure Bundle where
  settings : List Setting
  /-- Whether the next word is a value of the last switch. -/
  usesNext : Bool := false

namespace Bundle

/-- The bundle with one switch more in front. -/
def push (setting : Setting) (bundle : Bundle) : Bundle :=
  { bundle with settings := setting :: bundle.settings }

/-- A switch that ends its word: its value, if it takes one, is the next word. -/
def last (next : Option Text) (switch : Switch) : Except Stop Bundle :=
  if !switch.takesValue then .ok { settings := [(switch, none)] }
  else match next with
    | some value => .ok { settings := [(switch, some value)], usesNext := true }
    | none => .error (.misuse (.noValue switch))

/-- A switch with text after it in its word, which is its value if it takes one. -/
def withText (switch : Switch) (text : Text) : Except Stop Bundle :=
  if switch.takesValue then .ok { settings := [(switch, some text)] }
  else .error (.misuse (.needlessValue switch text))

/-- A short switch with text after it in its word. After one without a value further short ones may
follow. -/
def ofShort (next : Option Text) (switch : Switch) : Text → Except Stop Bundle
  | [] => withText switch []
  -- What follows a short switch is more switches, or the value of this one.
  | c :: more =>
    match Switch.spellings.lookup [.char '-', c] with
    | some inner =>
      if switch.takesValue then withText switch (c :: more)
      else (if more.isEmpty then last next inner else ofShort next inner more).map
        (push (switch, none))
    | none => withText switch (c :: more)

/-- A switch with what is attached to it. -/
def ofSwitch (next : Option Text) (switch : Switch) (short : Bool) : Option Text → Except Stop Bundle
  | none => last next switch
  | some text => if short then ofShort next switch text else withText switch text

end Bundle

/-- The draft after a bundle of switches. -/
def Draft.take (draft : Draft) (bundle : Bundle) : Except Stop Draft := do
  let options ← bundle.settings.foldlM apply draft.options
  return { draft with options }

/-- The first of some words, if it is a value. -/
def nextValue? : List (Text × Word) → Option Text
  | (value, .plain) :: _ => some value
  | _ => none

/-- What a command line asks for after `draft`, where `used` says that its first word was read already. -/
def readFrom : (used : Bool) → Draft → List (Text × Word) → Except Stop Draft
  | _, draft, [] => .ok draft
  | true, draft, _ :: rest => readFrom false draft rest
  | false, draft, (word, what) :: rest =>
    match what with
    | .switch switch short attached => do
      -- Only a word that is no switch can be the value of the one in front of it.
      let bundle ← Bundle.ofSwitch (nextValue? rest) switch short attached
      readFrom bundle.usesNext (← draft.take bundle) rest
    | _ => readFrom false { draft with extras := draft.extras ++ [word] } rest

/-- What a command line asks for. -/
def read (words : List Text) : Except Stop (Options Value) := do
  match Word.classifyAll words with
  | .error fault => throw (.misuse fault)
  | .ok classified =>
    let draft ← readFrom false {} classified
    -- That words are missing is told before that there are too many.
    match draft.options.config with
    | none => throw (.misuse .noConfig)
    | some config =>
      if !draft.extras.isEmpty then throw (.misuse (.unrecognized draft.extras))
      return { draft.options with config }

end Options

end KeyCluster

import KeyCluster.Config.Reference
import KeyCluster.Failure.Basic

/-! Replacing the references to the environment that stand in the texts of a document. -/

namespace KeyCluster

/-- The variables that are set, by name. -/
abbrev Environment := Text → Option Text

namespace Environment

/-- The environment with these variables. -/
def ofList (entries : List (Text × Text)) : Environment :=
  fun name => entries.lookup name

/-- The text that a reference stands for: that of the variable, or else its fallback. -/
def resolve (environment : Environment) (r : Reference) : Except ConfigFault Text :=
  match environment r.name, r.fallback with
  | some text, _ => .ok text
  | none, some fallback => .ok fallback
  | none, none => .error (.unset r.name)

/-- The text that a piece stands for. -/
def expandPiece (environment : Environment) : Piece → Except ConfigFault Text
  | .point c => .ok [c]
  | .reference r => environment.resolve r

/-- The text that pieces stand for; the first reference to a missing variable is a fault. -/
def expandPieces (environment : Environment) : List Piece → Except ConfigFault Text
  | [] => .ok []
  | piece :: rest => do
    let here ← environment.expandPiece piece
    return here ++ (← environment.expandPieces rest)

/-- A text with its references replaced. What stands in for them is not read again. -/
def expandText (environment : Environment) (text : Text) : Except ConfigFault Text :=
  environment.expandPieces (Piece.ofText text)

mutual

/-- A value with the references in all its texts replaced, except those in keys. Lists and mappings are gone
into at most `room` levels deep, so there is no end to one that stands inside itself. -/
def expandWithin (environment : Environment) : (room : Nat) → Value → Except Failure Value
  | _, .text s => ((environment.expandText s).map .text).mapError .config
  | room + 1, .list items => (environment.expandItemsWithin room items).map .list
  | room + 1, .map entries => (environment.expandEntriesWithin room entries).map .map
  | 0, .list _ | 0, .map _ | _, .again .list | _, .again .map => .error .tooDeep
  | _, v => .ok v

/-- Items with the references in all their texts replaced. -/
def expandItemsWithin (environment : Environment) (room : Nat) :
    List Value → Except Failure (List Value)
  | [] => .ok []
  | item :: rest => do
    let here ← environment.expandWithin room item
    return here :: (← environment.expandItemsWithin room rest)

/-- Entries with the references in all texts of their values replaced. -/
def expandEntriesWithin (environment : Environment) (room : Nat) :
    List (Value × Value) → Except Failure (List (Value × Value))
  | [] => .ok []
  | (key, value) :: rest => do
    let here ← environment.expandWithin room value
    return (key, here) :: (← environment.expandEntriesWithin room rest)

end

/-- How many levels deep lists and mappings are gone into. This is no number of the program, but one of the
interpreter that runs it (release 3.11): each level takes two of the thousand calls that may be under way by
default, and some are under way before the first level. -/
def levelLimit : Nat :=
  494

/-- A value with the references in all its texts replaced, if it is not too deep. -/
def expand (environment : Environment) (v : Value) : Except Failure Value :=
  environment.expandWithin levelLimit v

/-- The entries of a mapping with the references in all texts of their values replaced. The mapping is the
first level. -/
def expandEntries (environment : Environment) (entries : List (Value × Value)) :
    Except Failure (List (Value × Value)) :=
  environment.expandEntriesWithin (levelLimit - 1) entries

/-- A text is expanded by itself. -/
@[simp] theorem expand_text (environment : Environment) (s : Text) :
    environment.expand (.text s) = ((environment.expandText s).map .text).mapError .config :=
  rfl

end Environment

namespace Value

/-- The references in a text. -/
def textReferences (text : Text) : List Reference :=
  (Piece.ofText text).filterMap fun
    | .reference r => some r
    | .point _ => none

mutual

/-- The references in the texts of a value, in order; those in keys do not count. -/
def references : Value → List Reference
  | text s => textReferences s
  | list items => itemReferences items
  | map entries => entryReferences entries
  | _ => []

/-- The references in the texts of items. -/
def itemReferences : List Value → List Reference
  | [] => []
  | item :: rest => item.references ++ itemReferences rest

/-- The references in the texts of the values of entries. -/
def entryReferences : List (Value × Value) → List Reference
  | [] => []
  | (_, value) :: rest => value.references ++ entryReferences rest

end

end Value

end KeyCluster

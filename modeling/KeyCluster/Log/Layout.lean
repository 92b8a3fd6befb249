import KeyCluster.Json.Printer
import KeyCluster.Log.Record

/-! How records become lines of a log. -/

namespace KeyCluster

/-- The ways in which records are laid out. -/
inductive Layout where
  | json
  | text
  deriving DecidableEq, Repr

/-- The field about the exception of a record, if it says which one that is and that one counts as true. -/
def Trouble.fields : Trouble → List (Text × Value)
  | raised rendered true => [("exception", .text rendered)]
  | none | blank | raised _ false => []

namespace Layout

/-- The fields of a record as an object: the four that every record has, its facts, and the exception if it
counts as true. A later one of the same name stands in the place of an earlier one. -/
def payload (record : Record) (stamp message : Text) : List (Value × Value) :=
  let head : List (Text × Value) :=
    [("timestamp", .text stamp), ("level", .text record.levelName),
      ("logger", .text record.logger), ("message", .text message)]
  Value.mapping ((head ++ record.extras ++ record.trouble.fields).map fun field => (.text field.1, field.2))

/-- The line of a record in JSON. -/
def jsonLine : Action Record Text := do
  let record ← get
  let stamp ← Action.ofLog (Stamp.exact record.created)
  let message ← Action.ofLog record.messageText
  Action.ofValue (Json.form (.map (payload record stamp message)))

/-- A text with another one on a line of its own. -/
def withLine (line more : Text) : Text :=
  (if line.getLast? == some (.char '\n') then line else line ++ "\n") ++ more

/-- A text with another one on a line of its own, if there is another one. -/
def withLine? (line : Text) : Option Text → Text
  | some more => if more.isEmpty then line else withLine line more
  | none => line

/-- The message of a record with the texts about its exception and its place on lines of their own; the
message is noted, `head` makes the line from it, and the text about the exception is kept. -/
def plainLine (head : Text → Action Record Text) : Action Record Text := do
  let message ← Action.ofLog (← get).messageText
  -- The text under this name is read again by the head.
  modify (Record.note "message" (.text message))
  let line ← head message
  let record ← get
  let trouble := record.troubleShown
  -- It is kept for the next line that is made of this record.
  modify fun record => { record with troubleText := trouble }
  return withLine? (withLine? line trouble) record.stack

/-- A text filled up with blanks to a width. -/
def padRight (width : Nat) (s : Text) : Text :=
  s ++ List.replicate (width - s.length) (.char ' ')

/-- Time, level and logger before a message; the time is noted. -/
def headLine (message : Text) : Action Record Text := do
  let record ← get
  let stamp ← Action.ofLog (Stamp.plain record.created)
  modify (Record.note "asctime" (.text stamp))
  return stamp ++ " " ++ padRight 8 record.levelName ++ " [" ++ record.logger ++ "] "
    ++ message

/-- A fact as text; the items of a sequence stand one after the other. -/
def factText : Value → Except ValueFault Text
  | .list items | .tuple items | .set items => do
    return List.intercalate "," (← items.mapM (Value.write Value.plain))
  | v => v.write Value.plain

/-- Facts as text, each after its name. -/
def factsText (facts : List (Text × Value)) : Except ValueFault Text := do
  return List.intercalate " " (← facts.mapM fun fact => return fact.1 ++ "=" ++ (← factText fact.2))

/-- A text with something at the end of its first line. -/
def insertInFirstLine (more line : Text) : Text :=
  line.takeWhile (· != .char '\n') ++ more ++ line.dropWhile (· != .char '\n')

/-- The line of a record for readers: its facts end the first line. -/
def textLine : Action Record Text := do
  let line ← plainLine headLine
  -- The facts are read from the record only now, since the line has left notes in it.
  let facts := (← get).extras
  if facts.isEmpty then return line
  let shown ← Action.ofValue (factsText facts)
  return insertInFirstLine (" " ++ shown) line

/-- The line of a record. -/
def line : Layout → Action Record Text
  | json => jsonLine
  | text => textLine

/-- The line of a record where no layout was chosen: the message alone. -/
def bareLine : Action Record Text :=
  plainLine fun message => return message

end Layout

end KeyCluster

import KeyCluster.Failure.Action
import KeyCluster.Log.Entry
import KeyCluster.Log.Stamp
import KeyCluster.Template.Fill

/-! What a log is told, with everything that is known about it. -/

namespace KeyCluster

/-- What a record says about an exception: nothing, that there is one but not which, or which one it is. That
is given by all that layouts ask of it: the text written about it, and whether it counts as true. -/
inductive Trouble where
  | none
  | blank
  | raised (rendered : Text) (counts : Bool)

/-- What a log is told. -/
structure Record where
  logger : Text
  level : Level
  levelName : Text := Level.name level
  /-- The message, which is a template where there are arguments. -/
  message : Value
  arguments : List Value := []
  created : Instant
  trouble : Trouble := .none
  stack : Option Text := Option.none
  /-- The facts that belong to it, and what layouts noted, in the order in which they came. -/
  fields : List (Text × Value) := []
  /-- The text about the exception, once it was written. -/
  troubleText : Option Text := Option.none

namespace Record

/-- The names that every record uses itself. Most of them are those of the library for logs that comes with the
interpreter (release 3.11; later ones have more), and the last two are noted by layouts. -/
def reserved : List Text :=
  ["name", "msg", "args", "levelname", "levelno", "pathname", "filename", "module", "exc_info",
    "exc_text", "stack_info", "lineno", "funcName", "created", "msecs", "relativeCreated", "thread",
    "threadName", "processName", "process", "message", "asctime"]

/-- A record as it is accepted: its time can be counted, and none of its facts has a name that every
record uses itself. -/
def accept (record : Record) : Except LogFault Record := do
  discard record.created.accept
  match record.fields.find? fun field => reserved.contains field.1 with
  | some (name, _) => throw (.reserved name)
  | none => return record

/-- The record of an entry that was made at a time. -/
def ofEntry (time : Float) (entry : Entry) : Record where
  logger := entry.logger
  level := entry.level
  message := .text entry.message
  created := .point time
  fields := entry.fields

/-- Whether a field is a fact that is shown: names that begin with an underscore are not. -/
def isExtra (field : Text × Value) : Bool :=
  !reserved.contains field.1 && field.1.head? != some (.char '_')

/-- The facts that are shown, in order. -/
def extras (record : Record) : List (Text × Value) :=
  record.fields.filter isExtra

/-- The fields with a value under a name. A name that is there already keeps its place. -/
def putField (name : Text) (value : Value) : List (Text × Value) → List (Text × Value)
  | [] => [(name, value)]
  | (n, v) :: rest => if n == name then (name, value) :: rest else (n, v) :: putField name value rest

/-- The record with something noted under a name. -/
def note (name : Text) (value : Value) (record : Record) : Record :=
  { record with fields := putField name value record.fields }

/-- The name under which a record is asked for its message. -/
def messageMember : Text :=
  "getMessage"

/-- The message, filled with its arguments if there are any. A fact under the name that the message is asked
for by stands in the way. -/
def messageText (record : Record) : Except LogFault Text := do
  -- Such a fact is found instead of what fills the message.
  if let some value := record.fields.lookup messageMember then throw (.notCallable value.kind)
  let template ← (record.message.write Value.plain).mapError .unwritten
  if record.arguments.isEmpty then return template
  (Template.fill template record.arguments).mapError .template

end Record

namespace Failure

/-- A failure in one line: where it is at home, its name and what it says, if it says anything. -/
def summary (failure : Failure) : Text :=
  let words : Text := if failure.message.isEmpty then failure.kind.silence else failure.message
  let name : Text := failure.kind.home ++ failure.kind.name
  if words.isEmpty then name else name ++ ": " ++ words

end Failure

namespace Trouble

/-- What a record says about a failure of the program that comes without a trace of the calls to it. All of
these count as true. -/
def failure (f : Failure) : Trouble :=
  raised f.summary true

/-- The text about the exception of a record, if the record says anything about one. -/
def text : Trouble → Option Text
  | none => Option.none
  | blank => some "NoneType: None"
  | raised rendered _ => some rendered

end Trouble

/-- The text about the exception of a record, as it was written before if it was. -/
def Record.troubleShown (record : Record) : Option Text :=
  match record.troubleText with
  | some known => some known
  | none => record.trouble.text

end KeyCluster

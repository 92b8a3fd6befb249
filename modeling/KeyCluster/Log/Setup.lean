import KeyCluster.Config.Settings
import KeyCluster.Log.Layout
import KeyCluster.Text.Upper

/-! Which records a log lets through, and how it writes them. -/

namespace KeyCluster

/-- What the name of a level can stand for. -/
inductive LevelName where
  | level (level : Level)
  /-- A text that names no level. -/
  | pattern (text : Text)
  /-- Something else, as a message shows it. -/
  | other (shown : Text)

namespace LevelName

/-- The pattern of a line where nothing else is chosen. -/
def basicPattern : Text :=
  "%(levelname)s:%(name)s:%(message)s"

/-- The table of the kinds of pattern, as a message shows it. -/
def styles : Text :=
  "\x7b'%': (<class 'logging.PercentStyle'>, '%(levelname)s:%(name)s:%(message)s'), "
    ++ "'\x7b': (<class 'logging.StrFormatStyle'>, '\x7blevelname\x7d:\x7bname\x7d:\x7bmessage\x7d'), "
    ++ "'$': (<class 'logging.StringTemplateStyle'>, "
    ++ "'$\x7blevelname\x7d:$\x7bname\x7d:$\x7bmessage\x7d')\x7d"

/-- The names in capitals, with what they stand for. -/
def table : List (Text × LevelName) :=
  ("FATAL", level Level.critical) :: ("WARN", level Level.warning)
    :: ("BASIC_FORMAT", pattern basicPattern) :: ("_STYLES", other styles)
    :: Level.named.map fun entry => (entry.2, level entry.1)

end LevelName

/-- The level that a value names, in letters of any case; a text without a meaning stands for the level of
the normal course. -/
def Level.ofValue : Value → Except Failure Level
  | .text s => match LevelName.table.lookup (Upper.capitals s) with
    | some (.level found) => .ok found
    | some (.pattern found) => .error (.log (.unknownLevel found))
    | some (.other shown) => .error (.log (.notLevel shown))
    | none => .ok Level.info
  | .bytes _ => .error (.log (.notName .bytes))
  | v => .error (.value (.noMember v.kind "upper"))

/-- The state of a log. -/
structure LogSetup where
  /-- The least severe level that is let through. -/
  threshold : Level := Level.warning
  /-- The least severe level of records about connections that is let through; zero if the general one
  holds for them. -/
  wireThreshold : Level := 0
  /-- How each record is laid out, for each of the places that it is written to. -/
  layouts : List Layout := []

namespace LogSetup

/-- The name under which everything is logged that belongs to no part of the program. -/
def rootName : Text :=
  "root"

/-- The library that logs what happens to connections. -/
def wireName : Text :=
  "urllib3"

/-- The libraries that ask not to be heard where no layout was chosen. -/
def quietNames : List Text :=
  [wireName, "requests", "charset_normalizer"]

/-- Whether a logger is that of a part of the program, or of a part of that part. -/
def isUnder (part logger : Text) : Bool :=
  logger == part || (part ++ ".").isPrefixOf logger

/-- The log that settings describe. -/
def ofSettings (settings : LogSettings) : Except Failure LogSetup := do
  let threshold ← Level.ofValue settings.level
  let layout := if settings.format.isText "json" then Layout.json else Layout.text
  return { threshold, wireThreshold := Level.warning, layouts := [layout] }

/-- The least severe level that is let through from a logger. -/
def thresholdOf (setup : LogSetup) (logger : Text) : Level :=
  if isUnder wireName logger && setup.wireThreshold != 0 then setup.wireThreshold
  else setup.threshold

/-- Whether a level is let through from a logger. -/
def lets (setup : LogSetup) (logger : Text) (level : Level) : Bool :=
  0 < level && setup.thresholdOf logger ≤ level

/-- The line that an action on a record makes, and the record after it. A record that cannot be laid out
makes no line. -/
def lineOf (action : Action Record Text) (record : Record) : Text × Record :=
  match action.outcome record with
  | (.ok line, after) => (line ++ "\n", after)
  | (.error _, after) => ("", after)

/-- The lines of a record, one for each layout. -/
def linesOf : List Layout → Record → Text
  | [], _ => ""
  | layout :: rest, record =>
    let (line, after) := lineOf layout.line record
    line ++ linesOf rest after

/-- What is written for a record that is let through. Where no layout was chosen, warnings and what is
more severe are written all the same, except those of libraries that ask not to be heard. -/
def written (setup : LogSetup) (record : Record) : Text :=
  if !setup.layouts.isEmpty then linesOf setup.layouts record
  else if record.level < Level.warning || quietNames.any (isUnder · record.logger) then ""
  else (lineOf Layout.bareLine record).1

/-- What is written for a record, unless it is not let through or not accepted. -/
def tell (setup : LogSetup) (record : Record) : Except LogFault Text :=
  if setup.lets record.logger record.level then record.accept.map setup.written else .ok ""

/-- What is written for an entry that is made at a time. -/
def entryText (setup : LogSetup) (time : Float) (entry : Entry) : Text :=
  if setup.lets entry.logger entry.level then setup.written (Record.ofEntry time entry) else ""

/-- The name of a logger; no name at all means the root. -/
def loggerOf (name : Text) : Text :=
  if name.isEmpty then rootName else name

end LogSetup

end KeyCluster

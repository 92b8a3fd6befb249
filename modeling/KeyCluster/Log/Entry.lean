import KeyCluster.Value.Text

/-! What the program tells its log, and how severe that is. -/

namespace KeyCluster

/-- The severity of a log entry; larger numbers are more severe. -/
abbrev Level := Int

namespace Level

/-- Details for whoever looks for a mistake. -/
def debug : Level := 10

/-- What happens in the normal course. -/
def info : Level := 20

/-- What may become a problem. -/
def warning : Level := 30

/-- What went wrong. -/
def error : Level := 40

/-- What keeps the program from going on. -/
def critical : Level := 50

/-- The levels that have a name, with it. -/
def named : List (Level × Text) :=
  [(critical, "CRITICAL"), (error, "ERROR"), (warning, "WARNING"), (info, "INFO"), (debug, "DEBUG"),
    (0, "NOTSET")]

/-- The name of a level; a level without a name is called by its number. -/
def name (level : Level) : Text :=
  match named.find? fun entry => entry.1 == level with
  | some entry => entry.2
  | none => "Level " ++ Value.intText level

/-- The name of a value that stands for a level: that of the level that it equals, or else what is written
of it. -/
def nameOf (v : Value) : Text :=
  match named.find? fun entry => Value.isSameKey (.int entry.1) v with
  | some entry => entry.2
  | none => "Level " ++ v.plain

end Level

/-- One message to a log, with the facts that belong to it. -/
structure Entry where
  level : Level
  logger : Text
  message : Text
  /-- The facts, by name, in the order in which they are shown. -/
  fields : List (Text × Value)

end KeyCluster

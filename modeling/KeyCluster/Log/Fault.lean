import KeyCluster.Template.Fault

/-! Why something cannot be logged. -/

namespace KeyCluster

/-- What is wrong with a log record, or with the settings of a log; a kind tells the shape of a value. -/
inductive LogFault where
  | template (fault : TemplateFault)
  | unwritten (fault : ValueFault)
  /-- A value of this shape stands where the message is asked for. -/
  | notCallable (kind : Value.Kind)
  /-- A fact has a name that every record uses itself. -/
  | reserved (name : Text)
  | unknownLevel (text : Text)
  /-- What a name stands for is no level; the text shows it. -/
  | notLevel (shown : Text)
  | notName (kind : Value.Kind)
  | levelShape
  | uncounted (fault : ValueFault)
  | undefinedTime
  /-- The time is too far away to be counted in seconds. -/
  | farTime
  /-- The time is too far away to have a year. -/
  | farYear
  | calendar (fault : Date.Fault)

namespace LogFault

/-- The kind of failure that a fault is. -/
def kind : LogFault → FailureKind
  | template fault => fault.kind
  | reserved _ => .missingKey
  | unknownLevel _ | undefinedTime | calendar _ => .badValue
  | notLevel _ | notName _ | notCallable _ | levelShape => .wrongShape
  | farTime => .overflow
  | farYear => .system
  | unwritten fault | uncounted fault => fault.kind

/-- What a message says about a fault. -/
def message : LogFault → Text
  | template fault => fault.message
  | reserved name =>
    Quoted.quote ("Attempt to overwrite " ++ Quoted.quote name ++ " in LogRecord")
  | unknownLevel text => "Unknown level: " ++ Quoted.quote text
  | notLevel shown => "Level not an integer or a valid string: " ++ shown
  | notName kind => "attribute name must be string, not '" ++ kind.name ++ "'"
  | levelShape => "level must be an integer"
  | unwritten fault | uncounted fault => fault.message
  | notCallable kind => "'" ++ kind.name ++ "' object is not callable"
  | undefinedTime => "Invalid value NaN (not a number)"
  | farTime => "timestamp out of range for platform time_t"
  | farYear => "[Errno 75] Value too large for defined data type"
  | calendar fault => ValueFault.calendarMessage fault

end LogFault

end KeyCluster

/-! Kinds of failure that arise outside and are only passed on. -/

namespace KeyCluster

/-- A kind of failure that nothing here catches by itself. -/
structure ForeignKind where
  name : String
  /-- The names of the wider kinds that it belongs to, the narrowest first. -/
  wider : List String := []
  /-- Whether it is caught together with all ordinary failures. -/
  ordinary : Bool := true
  /-- The place that a log names before it. -/
  home : String := ""
  /-- What a log says about a failure that has no words of its own. -/
  silence : String := ""
  deriving DecidableEq, Repr

namespace ForeignKind

/-- Kinds that belong to no wider one. -/
def general : List ForeignKind :=
  ["ArithmeticError", "AssertionError", "BufferError", "EOFError", "Exception", "ImportError",
    "LookupError", "MemoryError", "NameError", "ReferenceError", "StopAsyncIteration", "StopIteration",
    "SystemError", "Warning"].map fun name => { name }

/-- Failures of the system. -/
def ofSystem : List ForeignKind :=
  ["BlockingIOError", "ChildProcessError", "FileExistsError", "FileNotFoundError", "InterruptedError",
    "IsADirectoryError", "NotADirectoryError", "PermissionError", "ProcessLookupError"].map
      fun name => { name, wider := ["OSError"] }

/-- Failures of a connection of the system. -/
def ofConnection : List ForeignKind :=
  ["BrokenPipeError", "ConnectionAbortedError", "ConnectionRefusedError"].map
    fun name => { name, wider := ["ConnectionError", "OSError"] }

/-- Warnings, which are failures where they are asked for. -/
def warnings : List ForeignKind :=
  ["BytesWarning", "DeprecationWarning", "EncodingWarning", "FutureWarning", "ImportWarning",
    "PendingDeprecationWarning", "ResourceWarning", "RuntimeWarning", "SyntaxWarning", "UnicodeWarning",
    "UserWarning"].map fun name => { name, wider := ["Warning"] }

/-- Kinds that belong to a wider one of their own. -/
def special : List ForeignKind :=
  [{ name := "FloatingPointError", wider := ["ArithmeticError"] },
    { name := "ZeroDivisionError", wider := ["ArithmeticError"] },
    { name := "ModuleNotFoundError", wider := ["ImportError"] },
    { name := "UnboundLocalError", wider := ["NameError"] },
    { name := "NotImplementedError", wider := ["RuntimeError"] },
    { name := "UnicodeError", wider := ["ValueError"] }]

/-- What a log says about a text that breaks the rules of its language, where nothing else is said. -/
def noDetail : String :=
  "<no detail available>"

/-- Texts that break the rules of their language. -/
def ofGrammar : List ForeignKind :=
  [{ name := "SyntaxError", silence := noDetail },
    { name := "IndentationError", wider := ["SyntaxError"], silence := noDetail },
    { name := "TabError", wider := ["IndentationError", "SyntaxError"], silence := noDetail }]

/-- What leaves a program without being an ordinary failure of it. -/
def exits : List ForeignKind :=
  ["BaseException", "GeneratorExit", "SystemExit"].map fun name => { name, ordinary := false }

/-- Where the kinds that belong to exchanges are at home. -/
def exchangeHome : String :=
  "requests.exceptions."

/-- Warnings about exchanges. -/
def ofExchange : List ForeignKind :=
  [{ name := "RequestsWarning", wider := ["Warning"], home := exchangeHome },
    { name := "FileModeWarning", wider := ["RequestsWarning", "DeprecationWarning", "Warning"],
      home := exchangeHome },
    { name := "RequestsDependencyWarning", wider := ["RequestsWarning", "Warning"],
      home := exchangeHome }]

/-- The kind of all failures on the level below an exchange. -/
def transfer : ForeignKind :=
  { name := "HTTPError", home := "urllib3.exceptions." }

/-- Every kind that is told by its own name. -/
def all : List ForeignKind :=
  general ++ ofSystem ++ ofConnection ++ warnings ++ special ++ ofGrammar ++ exits ++ ofExchange

/-- The kind that leaves a program at once, with a last word about it. -/
def isExit (kind : ForeignKind) : Bool :=
  kind.name == "SystemExit"

end ForeignKind

end KeyCluster

import KeyCluster.Config.Acceptance
import KeyCluster.Files.Basic
import KeyCluster.Yaml.Document

/-! Reading the configuration file. -/

namespace KeyCluster.Config

/-- A text in which every line ends with a line feed alone. -/
def unifyLines : List Char → List Char
  | '\r' :: '\n' :: rest => '\n' :: unifyLines rest
  | '\r' :: rest => '\n' :: unifyLines rest
  | c :: rest => c :: unifyLines rest
  | [] => []

/-- The value of the document in the content of the file under a path. -/
def readDocument (path : Text) (content : List UInt8) : Except Failure Value :=
  match Utf8.decode content with
  | .error breach => .error (.encoding breach)
  | .ok text => match Yaml.read (unifyLines text) with
    | .ok document => .ok document
    | .error (.malformed flaw) => .error (.config (.malformed path flaw.message))
    | .error (.value fault) => .error (.value fault)
    | .error .tooDeep => .error .tooDeep

/-- The configuration in the file under the path that a value is. -/
def load (files : Files) (environment : Environment) (path : Value) : Except Failure Config := do
  let shown := (Path.ofText (← path.toPath.mapError .value)).text
  match ← files.find path with
  | .file content => ofDocument environment (← readDocument shown content)
  | _ => throw (.config (.notFound shown))

end KeyCluster.Config

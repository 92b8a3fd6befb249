import KeyCluster.Failure.Basic
import KeyCluster.Text.Blank
import KeyCluster.Value.Convert

/-! Paths of files, and what is found under them. -/

namespace KeyCluster

/-- A path: where it starts, and the names on the way. -/
structure Path where
  /-- Nothing for a path from here, else one slash, or exactly two, which is another root. -/
  root : Text
  /-- The names, those that lead back included. -/
  names : List Text
  deriving DecidableEq, Repr

namespace Path

/-- The name that leads back. -/
def back : Text :=
  ".."

/-- The root of a path that begins with this many slashes. -/
def rootOf (slashes : Nat) : Text :=
  if slashes == 0 then "" else if slashes == 2 then "//" else "/"

/-- The path that a text writes. Repeated slashes and names that lead nowhere do not count. -/
def ofText (text : Text) : Path where
  root := rootOf (text.takeWhile (· == .char '/')).length
  names := (Blank.words (· == .char '/') text).filter (· != ".")

/-- The text of a path. -/
def text (path : Path) : Text :=
  if path.root == "" && path.names.isEmpty then "."
  else path.root ++ List.intercalate "/" path.names

end Path

/-- What is found under a path: a file with this content; no file, which is nothing at all or a directory; or
nothing that could be looked for, since a name on the path is too long. Whatever else can keep a system from
looking or reading, such as a missing permission, is left out: all files can be read. -/
inductive Found where
  | file (content : List UInt8)
  | noFile
  | nameTooLong
  deriving DecidableEq, Repr

/-- The files of a system: what is found under each path, given by its text. -/
abbrev Files := Text → Found

namespace Files

/-- What is found under a path that a value names. -/
def find (files : Files) (value : Value) : Except Failure Found :=
  match value.toPath with
  | .error fault => .error (.value fault)
  | .ok text =>
    let shown := (Path.ofText text).text
    match files shown with
    | .nameTooLong => .error (.nameTooLong shown)
    | found => .ok found

/-- Whether there is a file under a path that a value names. -/
def isFile (files : Files) (value : Value) : Except Failure Bool :=
  (files.find value).map fun
    | .file _ => true
    | _ => false

end Files

end KeyCluster

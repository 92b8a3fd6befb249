import KeyCluster.Files.Basic

/-! Files as a tree of directories below the current one. -/

namespace KeyCluster

/-- A tree of files: each path down from the current directory with the content of a file, or with nothing
for a directory. The directories on the way to an entry exist too. -/
abbrev FileTree := List (List Text × Option (List UInt8))

namespace FileTree

/-- The tree with these files, by path. -/
def ofList (entries : List (Text × Option (List UInt8))) : FileTree :=
  entries.map fun (path, content) => ((Path.ofText path).names, content)

/-- How many bytes a code point takes in the name of a file, if it can stand there. Some surrogates stand
for single bytes that are not text. -/
def widthOf : CodePoint → Option Nat
  | .char '\x00' => none
  | .char c => some c.utf8Size
  | .surrogate s => if 0x480 ≤ s.val && s.val < 0x500 then some 1 else none

/-- How many bytes a text takes as the name of a file. -/
def sizeOf (text : Text) : Nat :=
  text.foldl (fun size c => size + (widthOf c).getD 0) 0

/-- Whether a name is longer than a file system takes. -/
def isLongName (name : Text) : Bool :=
  255 < sizeOf name

/-- Whether there is a directory under a path. -/
def isDirectory (tree : FileTree) (names : List Text) : Bool :=
  tree.any fun entry => names.isPrefixOf entry.1 && (entry.1 != names || entry.2.isNone)

/-- What is found outside the tree: no file, as far as names can be looked up. -/
def outside : List Text → Found
  | [] => .noFile
  | name :: rest =>
    if name == Path.back then outside rest
    else if isLongName name then .nameTooLong
    else .noFile

/-- What is found on the way along names from a directory of the tree. -/
def follow (tree : FileTree) (here : List Text) : List Text → Found
  | [] => .noFile
  | name :: rest =>
    let there := here ++ [name]
    if name == Path.back then
      if here.isEmpty then outside rest else follow tree here.dropLast rest
    else if isLongName name then .nameTooLong
    else match tree.lookup there with
      | some (some content) => if rest.isEmpty then .file content else .noFile
      | _ => if tree.isDirectory there then follow tree there rest else .noFile

/-- The files of a tree. No path that starts at a root leads into it. -/
def files (tree : FileTree) : Files := fun text =>
  let path := Path.ofText text
  if text.any fun c => (widthOf c).isNone then .noFile
  else if 4095 < sizeOf text then .nameTooLong
  else if path.root != "" then outside path.names
  else tree.follow [] path.names

end FileTree

end KeyCluster

import SciCalc.Command.Path
import SciCalc.Failure

/-!
# Trees of files

A tree of files has directories where they are listed and where something lies below. A path is followed name
by name from the root or from the directory in use, and every name but the last has to lead to a directory.
-/

namespace SciCalc

/-- Where a path leads. -/
inductive Finding where
  | text (content : String)
  | directory
  | nothing
  /-- A file stands where the path goes on. -/
  | belowFile
  | nameTooLong
  | pathTooLong
  | nulInPath
deriving DecidableEq, Repr

/-- The failure of a path that does not lead to a file. -/
def Finding.toText (path : String) : Finding → Except Failure String
  | text content => .ok content
  | directory => .error (.isDirectory path)
  | nothing => .error (.fileNotFound path)
  | belowFile => .error (.notDirectory path)
  | nameTooLong | pathTooLong => .error (.nameTooLong path)
  | nulInPath => .error .nulInPath

/-- Places in a tree are given by the names that lead to them from the root. -/
structure Files where
  /-- The directory in use. -/
  current : List String
  directories : List (List String)
  texts : List (List String × String)

namespace Files

/-- The greatest number of bytes of a name. -/
def nameLimit : Nat := 255

/-- The greatest number of bytes of a path. -/
def pathLimit : Nat := 4095

def isDirectory (files : Files) (place : List String) : Bool :=
  (files.current :: files.directories ++ files.texts.map (·.1.dropLast)).any place.isPrefixOf

/-- The place that a name leads to. -/
def enter (place : List String) (name : String) : List String :=
  if name.isEmpty || name = "." then place
  else if name = ".." then place.dropLast
  else place ++ [name]

/-- What stands at a place. -/
def look (files : Files) (place : List String) : Finding :=
  match files.texts.lookup place with
  | some content => .text content
  | none => if files.isDirectory place then .directory else .nothing

/-- Follows names from a place. -/
def follow (files : Files) (place : List String) : List String → Finding
  | [] => files.look place
  | name :: rest =>
    match files.look place with
    | .text _ => .belowFile
    | .directory =>
      if nameLimit < name.utf8ByteSize then .nameTooLong else files.follow (enter place name) rest
    | other => other

/-- Where the path starts. -/
def origin (files : Files) (path : String) : List String :=
  if (Path.root path).isEmpty then files.current else []

/-- The place that the path means, whatever stands there. -/
def place (files : Files) (path : String) : List String :=
  (Path.segments path).foldl enter (files.origin path)

/-- Where the path leads. -/
def find (files : Files) (path : String) : Finding :=
  if path.toList.contains '\x00' then .nulInPath
  else if pathLimit < path.utf8ByteSize then .pathTooLong
  else files.follow (files.origin path) (Path.segments path)

end Files

end SciCalc

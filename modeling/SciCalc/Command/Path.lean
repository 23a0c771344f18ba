/-!
# Paths

A path is a list of names with slashes between them. Empty names and single points count for nothing.
-/

namespace SciCalc.Path

/-- The slashes in front of an absolute path. Two differ from one; any other number counts as one. -/
def root (path : String) : String :=
  match (path.toList.takeWhile (· = '/')).length with
  | 0 => ""
  | 2 => "//"
  | _ => "/"

/-- All names, also those that count for nothing. -/
def segments (path : String) : List String := path.splitOn "/"

/-- The names that count. -/
def names (path : String) : List String := (segments path).filter fun name => !name.isEmpty && name ≠ "."

/-- The directory that the path is in, without what counts for nothing. -/
def parent (path : String) : String :=
  match root path, (names path).dropLast with
  | "", [] => "."
  | root, names => root ++ "/".intercalate names

/-- The last name, empty only if there is none. -/
def lastName (path : String) : String := ((segments path).filter (!·.isEmpty)).getLast?.getD ""

/-- A slash behind a name asks for a directory of that name. -/
def namesDirectory (path : String) : Bool :=
  path.toList.getLast? = some '/' && lastName path ≠ "." && lastName path ≠ ".."

/-- The tilde in front of a path stands for the home directory. -/
def expandHome (home path : String) : String :=
  match path.toList with
  | ['~'] => home
  | '~' :: '/' :: rest => home ++ "/" ++ String.ofList rest
  | _ => path

/-- The schemes whose addresses are fetched without help. -/
def plainSchemes : List String := [
  "file", "ftp", "git", "git+ssh", "gopher", "hdl", "http", "https", "imap", "mms", "nfs", "nntp", "prospero",
  "rsync", "rtsp", "rtsps", "rtspu", "sftp", "shttp", "sip", "sips", "snews", "svn", "svn+ssh", "tel", "telnet",
  "wais", "ws", "wss"]

/-- The scheme in front of a colon and two slashes. -/
def scheme? (path : String) : Option String :=
  let scheme := path.toList.takeWhile fun c => c.isAlphanum || c = '+' || c = '-' || c = '.'
  if scheme.head?.any Char.isAlpha && [':', '/', '/'].isPrefixOf (path.toList.drop scheme.length) then
    some (String.ofList (scheme.map Char.toLower))
  else none

/-- The address of a file in a store that needs an optional part. -/
def isRemote (path : String) : Bool := (scheme? path).any (!plainSchemes.contains ·)

end SciCalc.Path

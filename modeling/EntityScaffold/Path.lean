/-!
Paths as texts. Two texts are the same path when they have the same components: repeated slashes, a
slash at the end and `.` after the start make no difference.
-/

namespace EntityScaffold.Path

/-- the components of a path: `/` first when the path is absolute, `.` only when the path starts with
it -/
def components (path : String) : List String :=
  let pieces := (path.toList.splitOn '/').map String.ofList
  let named (rest : List String) := rest.filter fun piece => piece ≠ "" && piece ≠ "."
  match pieces with
  | "" :: _ :: _ => "/" :: named pieces
  | "." :: rest => "." :: named rest
  | _ => named pieces

/-- a path from the root of the system -/
def isAbsolute (path : String) : Bool := path.toList.head? = some '/'

def endsWithSlash (path : String) : Bool := path.toList.getLast? = some '/'

/-- the names a system goes through to reach a path; a slash at the end asks for a directory, as `.`
does -/
def steps (path : String) : List String :=
  let names := ((path.toList.splitOn '/').map String.ofList).filter (· ≠ "")
  if endsWithSlash path then names ++ ["."] else names

/-- the two texts are the same path -/
def same (a b : String) : Bool := components a = components b

/-- the path of an entry of a directory; an absolute path stands for itself -/
def join (directory entry : String) : String :=
  if isAbsolute entry then entry
  else if directory = "" then entry
  else if endsWithSlash directory then directory ++ entry
  else directory ++ "/" ++ entry

def ofComponents : List String → String
  | "/" :: rest => "/" ++ String.intercalate "/" rest
  | parts => String.intercalate "/" parts

/-- the directory that holds the file of a path -/
def parent (path : String) : String := ofComponents (components path).dropLast

end EntityScaffold.Path

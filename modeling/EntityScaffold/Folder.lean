import EntityScaffold.Generation
import EntityScaffold.Text.Bytes

/-!
Access to files. What a program needs of a file system is a record of operations in some monad, so
that a program can run on real files or on a folder in memory. A folder in memory holds contents at
places, and is the directory that a program runs in. A path is gone through name by name, as a system
does: each name on the way must be a directory that exists.
-/

namespace EntityScaffold

/-- the file operations of a program; a failure comes with its reason -/
structure FileAccess (m : Type → Type) where
  read (path : String) : m (Except String String)
  isFile (path : String) : m Bool
  /-- write a file that is already there -/
  replace (path content : String) : m (Option String)
  /-- writes below a directory, and makes the directories that are missing -/
  below (directory : String) : Writer m

/-- the names on the way from the folder to a file or directory. It starts with `..` above the folder,
with `/` at the root of the system. -/
abbrev Place := List String

/-- contents at places; a directory is there when it was made, or when a file below it is there -/
structure Folder where
  files : List (Place × String)
  directories : List Place
deriving DecidableEq, Repr

namespace Folder

/-- the reason a file operation fails -/
inductive FileError
  | notFound
  | exists
  | notADirectory
  | isADirectory
  | nameTooLong
  | nulInName
deriving DecidableEq, Repr

def FileError.message : FileError → String
  | .notFound => "No such file or directory (os error 2)"
  | .exists => "File exists (os error 17)"
  | .notADirectory => "Not a directory (os error 20)"
  | .isADirectory => "Is a directory (os error 21)"
  | .nameTooLong => "File name too long (os error 36)"
  | .nulInName => "file name contained an unexpected NUL byte"

/-! ## Places -/

/-- a directory above the folder, or the folder itself -/
def isAbove (place : Place) : Bool := place.all (· = "..")

/-- the directory that holds a place; the root holds itself -/
def above (place : Place) : Place :=
  if isAbove place then place ++ [".."]
  else if place = ["/"] then place
  else place.dropLast

/-- the place that a name leads to -/
def enter (place : Place) (name : String) : Place :=
  if name = "." then place else if name = ".." then above place else place ++ [name]

def content? (f : Folder) (place : Place) : Option String :=
  (f.files.find? (·.1 = place)).map (·.2)

def hasFile (f : Folder) (place : Place) : Bool := (f.content? place).isSome

def hasDirectory (f : Folder) (place : Place) : Bool :=
  isAbove place || place = ["/"] || f.directories.contains place
    || f.files.any fun file => place.isPrefixOf file.1 && file.1 ≠ place

/-- the bytes a name may have -/
def nameLimit : Nat := 255

/-- the bytes a path may have -/
def pathLimit : Nat := 4095

/-- one more name on the way, from a directory that must be there -/
def step (f : Folder) (place : Place) (name : String) : Except FileError Place :=
  if f.hasFile place then .error .notADirectory
  else if !f.hasDirectory place then .error .notFound
  else if nameLimit < Text.byteCount name.toList then .error .nameTooLong
  else .ok (enter place name)

/-- the place of a path, where something may stand or not -/
def resolve (f : Folder) (path : String) : Except FileError Place :=
  if path.toList.contains '\x00' then .error .nulInName
  else if path = "" then .error .notFound
  else if pathLimit < Text.byteCount path.toList then .error .nameTooLong
  else (Path.steps path).foldlM f.step (if Path.isAbsolute path then ["/"] else [])

/-! ## Operations -/

def read (f : Folder) (path : String) : Except FileError String := do
  let place ← f.resolve path
  match f.content? place with
  | some content => return content
  | none => throw (if f.hasDirectory place then .isADirectory else .notFound)

def isFile (f : Folder) (path : String) : Bool :=
  match f.resolve path with
  | .ok place => f.hasFile place
  | .error _ => false

def isDirectory (f : Folder) (path : String) : Bool :=
  match f.resolve path with
  | .ok place => f.hasDirectory place
  | .error _ => false

def putAt (f : Folder) (place : Place) (content : String) : Folder :=
  if f.hasFile place then
    { f with files := f.files.map fun file => if file.1 = place then (place, content) else file }
  else { f with files := f.files ++ [(place, content)] }

def write (f : Folder) (path content : String) : Except FileError Folder := do
  let place ← f.resolve path
  if f.hasDirectory place then throw .isADirectory
  return f.putAt place content

/-- the folder with a directory at a path where nothing stands -/
def makeDirectory (f : Folder) (path : String) : Except FileError Folder := do
  let place ← f.resolve path
  if f.hasFile place || f.hasDirectory place then throw .exists
  return { f with directories := f.directories ++ [place] }

/-- the folder with a directory at a path; one that is there will do -/
def ensureDirectory (f : Folder) (path : String) : Except FileError Folder :=
  match f.makeDirectory path with
  | .ok f => .ok f
  | .error e => if f.isDirectory path then .ok f else .error e

/-- the folder with the directory of a path, given by its components from the last to the first, and
with those that are missing on the way to it -/
def makeDirectories : List String → Folder → Except FileError Folder
  | [], f => .ok f
  | name :: parents, f =>
    let path := Path.ofComponents (name :: parents).reverse
    match f.ensureDirectory path with
    | .error .notFound => do (← makeDirectories parents f).ensureDirectory path
    | made => made

/-- the folder after a write that makes missing directories -/
def writeBelow (f : Folder) (directory path content : String) : Except FileError Folder := do
  let full := Path.join directory path
  let f ← makeDirectories (Path.components full).dropLast.reverse f
  f.write full content

/-- a change of the folder as an operation; the reason when it fails -/
def change (made : Folder → Except FileError Folder) : StateM Folder (Option String) := do
  match made (← get) with
  | .ok f => do
    set f
    return none
  | .error e => return some e.message

/-- the file operations on a folder in memory -/
def access : FileAccess (StateM Folder) where
  read path := do return ((← get).read path).mapError FileError.message
  isFile path := do return (← get).isFile path
  replace path content := change (·.write path content)
  below directory := ⟨fun path content => change (·.writeBelow directory path content)⟩

/-! ## Contents -/

/-- directories that every system has at its root -/
def systemDirectories : List Place := ["dev", "etc", "tmp", "usr"].map fun name => ["/", name]

/-- the null device, which reads as an empty file -/
def nullDevice : Place × String := (["/", "dev", "null"], "")

def ofFiles (files : List (String × String)) : Folder where
  files := nullDevice :: files.map fun file => ((Path.steps file.1).foldl enter [], file.2)
  directories := systemDirectories

def isInside (place : Place) : Bool := place.head? ≠ some ".." && place.head? ≠ some "/"

def pathOf (place : Place) : String := String.intercalate "/" place

/-- the files of a folder that an earlier folder has not, or has with another content -/
def changedSince (f earlier : Folder) : List (String × String) :=
  (f.files.filter fun file => isInside file.1 && earlier.content? file.1 ≠ some file.2).map
    fun file => (pathOf file.1, file.2)

end Folder

end EntityScaffold

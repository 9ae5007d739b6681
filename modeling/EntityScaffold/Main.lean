import EntityScaffold.CommandLine.Run

/-!
The program: it runs a command on the files of the system.
-/

namespace EntityScaffold.CommandLine

/-- the reason a file operation failed -/
def ioReason (e : IO.Error) : String :=
  match e with
  | .noFileOrDirectory _ _ _ => Folder.FileError.notFound.message
  | e => toString e

/-- an operation that may fail, with the reason -/
def attempt (action : IO Unit) : IO (Option String) := do
  try
    action
    return none
  catch e => return some (ioReason e)

def writeBelow (directory path content : String) : IO Unit := do
  let full := Path.join directory path
  IO.FS.createDirAll (Path.parent full)
  IO.FS.writeFile full content

/-- the files of the system -/
def systemFiles : FileAccess IO where
  read path := do
    try return .ok (← IO.FS.readFile path)
    catch e => return .error (ioReason e)
  isFile path := do
    try
      let _ ← IO.FS.readFile path
      return true
    catch _ => return false
  replace path content := attempt (IO.FS.writeFile path content)
  below directory := ⟨fun path content => attempt (writeBelow directory path content)⟩

end EntityScaffold.CommandLine

open EntityScaffold.CommandLine in
/-- run the program and print what it says -/
def main (args : List String) : IO UInt32 := do
  let outcome ← run systemFiles args
  IO.print outcome.output
  IO.eprint outcome.errors
  return outcome.status.toUInt32

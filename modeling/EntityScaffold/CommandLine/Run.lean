import EntityScaffold.CommandLine.Arguments
import EntityScaffold.Document.Layout
import EntityScaffold.Document.Loading
import EntityScaffold.Folder
import EntityScaffold.Settings

/-!
Running a command. A command reads its settings and its document, does its work through the file
operations it is given, and answers with a status and what it prints. A failure ends it with status 1
and the reason; a usage error has status 2.
-/

namespace EntityScaffold.CommandLine

open Document

/-- what a run prints, and the status it ends with -/
structure Outcome where
  status : Nat
  output : String
  errors : String
deriving DecidableEq, Repr

def failed (reason : String) : Outcome := ⟨1, "", reason ++ "\n"⟩

/-- the name of the settings file beside a document -/
def settingsFile : String := "schemagen.toml"

/-- what is printed when the arguments make up no command -/
def usageText : String :=
  "usage: schemagen [-c FILE] [-v] generate|check|fmt DOCUMENT [OPTIONS]\n"

/-- what is printed when the version is asked for -/
def versionText : String := "schemagen 0.1.0\n"

variable {m : Type → Type} [Monad m]

/-- a file that cannot be read -/
def unreadable (path reason : String) : String := "Failed to read " ++ path ++ ": " ++ reason

/-- a document, or the reason it cannot be read -/
def readFile (files : FileAccess m) (path : String) : ExceptT String m String := do
  let found ← ExceptT.lift (files.read path)
  match found with
  | .ok text => return text
  | .error reason => throw (unreadable path reason)

def readSettings (files : FileAccess m) (path : String) : ExceptT String m Settings := do
  let text ← readFile files path
  match Settings.read text with
  | .ok settings => return settings
  | .error error => throw (error.message text)

/-- the settings for a document: those of the file that was named, else of the file beside the
document, else the usual ones -/
def settingsFor (files : FileAccess m) (named : Option String) (source : String) :
    ExceptT String m Settings := do
  match named with
  | some path => readSettings files path
  | none =>
    let path := Path.join (Path.parent source) settingsFile
    if ← ExceptT.lift (files.isFile path) then readSettings files path else return .default

def loadFile (files : FileAccess m) (path : String) (strict : Bool) :
    ExceptT String m Document.Outcome := do
  let text ← readFile files path
  match Document.load strict text with
  | .ok loaded => return loaded
  | .error error => throw error.message

/-! ## Summaries -/

/-- how the summary shows the identifier of an entity -/
def shownIdentifier (e : Entity) : String :=
  match Artifact.identifier? e with
  | some id => if id.surrogate then id.field ++ " (surrogate)" else id.field
  | none => "-"

def summaryRow (e : Entity) : List String :=
  [e.name, toString e.fields.length, toString e.relationFields.length, shownIdentifier e]

def summary (s : Schema) : String :=
  let table : Grid.Table :=
    ⟨["model", "fields", "relations", "identifier"].map String.toList,
      s.entities.map fun e => (summaryRow e).map String.toList⟩
  (if table.rows = [] then "no models\n" else String.ofList table.render)
    ++ "\n" ++ toString s.entities.length ++ " models, " ++ toString s.relations.length
    ++ " relations, " ++ toString s.enums.length ++ " enums\n"

def generated (dryRun : Bool) (directory : String) (r : Report) : String :=
  if dryRun then toString r.written.length ++ " files would be written\n"
  else
    "Wrote " ++ toString r.written.length ++ " files for " ++ toString r.generated.length
      ++ " models to " ++ directory ++ " (" ++ toString r.warnings.length ++ " warnings)\n"

/-! ## Commands -/

/-- generate artifacts -/
def runGenerate (files : FileAccess m) (named : Option String) (c : GenerateCommand) :
    ExceptT String m Outcome := do
  let settings ← settingsFor files named c.source
  let loaded ← loadFile files c.source (c.strict || settings.strict)
  let names := if c.all then loaded.schema.entities.map (·.name) else c.entities
  let options : Options :=
    ⟨c.strategy.getD settings.strategy, if c.kinds = [] then settings.kinds else c.kinds⟩
  let directory := c.output.getD settings.outputDir
  let writer := if c.dryRun then Writer.idle else files.below directory
  match ← ExceptT.lift (generate options .json writer loaded.schema names) with
  | .error error => throw error.message
  | .ok report => return ⟨0, "", generated c.dryRun directory report⟩

/-- read a document and sum it up -/
def runCheck (files : FileAccess m) (named : Option String) (source : String) (strict : Bool) :
    ExceptT String m Outcome := do
  let settings ← settingsFor files named source
  let loaded ← loadFile files source (strict || settings.strict)
  return ⟨0, summary loaded.schema, ""⟩

/-- print a document in its canonical layout, or write it back if that differs -/
def runFormat (files : FileAccess m) (source : String) (write : Bool) :
    ExceptT String m Outcome := do
  let text ← readFile files source
  match Document.format text with
  | .error error => throw (LoadError.read error).message
  | .ok laid =>
    if !write then return ⟨0, laid, ""⟩
    else if laid = text then return ⟨0, "", ""⟩
    else
      match ← ExceptT.lift (files.replace source laid) with
      | some reason => throw ("Failed to write " ++ source ++ ": " ++ reason)
      | none => return ⟨0, "", ""⟩

def runInvocation (files : FileAccess m) (i : Invocation) : ExceptT String m Outcome :=
  match i.command with
  | .generate c => runGenerate files i.settings c
  | .check source strict => runCheck files i.settings source strict
  | .format source write => runFormat files source write

def run (files : FileAccess m) (args : List String) : m Outcome :=
  match readArguments args with
  | .usage => pure ⟨2, "", usageText⟩
  | .version => pure ⟨0, versionText, ""⟩
  | .invocation i => do
    match ← (runInvocation files i).run with
    | .ok outcome => return outcome
    | .error reason => return failed reason

end EntityScaffold.CommandLine

import EntityScaffold.Path
import EntityScaffold.Plan

/-!
Carrying out a plan: its files are written in order, up to the first that cannot be written. Where
they are written to is a parameter. One such place is a store in memory, which keeps the content last
written under each path.
-/

namespace EntityScaffold

/-- writes a content under a path; the reason when that fails -/
structure Writer (m : Type → Type) where
  write (path content : String) : m (Option String)

/-- write files in order; the error of the first that fails -/
def Writer.writeAll {m : Type → Type} [Monad m] (w : Writer m) :
    List PlannedFile → m (Except GenerateError Unit)
  | [] => pure (.ok ())
  | file :: rest => do
    match ← w.write file.path file.content with
    | some reason => pure (.error (.write file.path reason))
    | none => w.writeAll rest

/-- a plan written, and reported with what was written; nothing is written when the plan failed -/
def Writer.carryOut {m : Type → Type} [Monad m] (w : Writer m) :
    Except GenerateError Plan → m (Except GenerateError Report)
  | .error error => pure (.error error)
  | .ok p => do
    match ← w.writeAll p.files with
    | .error error => pure (.error error)
    | .ok () => pure (.ok { p.report with written := p.files.map (·.path) })

/-- plan by a schedule, then write -/
def generateWith {m : Type → Type} [Monad m] (schedule : Schedule) (o : Options) (r : Renderer)
    (w : Writer m) (s : Schema) (names : List String) : m (Except GenerateError Report) :=
  w.carryOut (planWith schedule o r s names)

def generate {m : Type → Type} [Monad m] (o : Options) (r : Renderer) (w : Writer m) (s : Schema)
    (names : List String) : m (Except GenerateError Report) :=
  w.carryOut (plan o r s names)

def Writer.idle {m : Type → Type} [Monad m] : Writer m := ⟨fun _ _ => pure none⟩

/-! ## Files in memory -/

/-- contents under paths, in the order in which the paths were first written -/
structure Store where
  files : List (String × String)
deriving DecidableEq, Repr

namespace Store

def empty : Store := ⟨[]⟩

/-- a new content for the path, or a new path at the end -/
def putFile (path content : String) : List (String × String) → List (String × String)
  | [] => [(path, content)]
  | file :: rest =>
    if Path.same file.1 path then (file.1, content) :: rest else file :: putFile path content rest

def put (s : Store) (path content : String) : Store := ⟨putFile path content s.files⟩

/-- the content under a path -/
def get? (s : Store) (path : String) : Option String :=
  (s.files.find? fun file => Path.same file.1 path).map (·.2)

/-- the files of a store that an earlier store has not, or has with another content -/
def changedSince (s earlier : Store) : List (String × String) :=
  s.files.filter fun file => earlier.get? file.1 ≠ some file.2

/-- writes into a store, but to no path of a list -/
def writer (blocked : List String) (reason : String) : Writer (StateM Store) where
  write path content :=
    if blocked.any (Path.same · path) then pure (some reason)
    else do
      modify (·.put path content)
      pure none

end Store

end EntityScaffold

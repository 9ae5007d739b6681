import EntityScaffold.Document.Reading
import EntityScaffold.Schema.Binding

/-!
Loading a document: reading it, then binding its keys.
-/

namespace EntityScaffold.Document

/-- the reason a document cannot be loaded -/
inductive LoadError
  | read (error : ReadError)
  | bind (error : BindError)
deriving DecidableEq, Repr

def LoadError.message : LoadError → String
  | .read error => "Parse error: " ++ error.message
  | .bind error => "Resolve error: " ++ error.message

/-- a document read and bound, with the problems passed over -/
def load (strict : Bool) (source : String) : Except LoadError Outcome := do
  let outcome ← (read strict source).mapError .read
  let schema ← outcome.schema.bindKeys.mapError .bind
  .ok { outcome with schema }

end EntityScaffold.Document

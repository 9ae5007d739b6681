import EntityScaffold.Document.Loading
import EntityScaffold.Plan

/-!
All view models of a document in one JSON text: the structural problems passed over, the artifacts of
every entity, and the report.
-/

namespace EntityScaffold

open Document Artifact

def Document.Problem.json : Problem → Json
  | .orphanField line text => .object [
      ("kind", .string "orphan_field"), ("line", Json.nat line), ("text", .string text)]
  | .unclosedEntity line name => .object [
      ("kind", .string "unclosed_entity"), ("line", Json.nat line), ("name", .string name)]

def Artifact.BuildError.json : BuildError → Json
  | .reference entity field target => .object [
      ("kind", .string "reference"), ("entity", .string entity), ("field", .string field),
      ("target", .string target)]
  | .noIdentifier entity => .object [
      ("kind", .string "no_identifier"), ("entity", .string entity)]

def Warning.json : Warning → Json
  | .unknownEntity name => .object [("kind", .string "unknown_entity"), ("name", .string name)]
  | .cycle b => .object [
      ("kind", .string "cycle"), ("entity", .string b.entity),
      ("waiting_on", Json.strings b.waitingOn)]
  | .missingIdentifier entity surrogate => .object [
      ("kind", .string "missing_identifier"), ("entity", .string entity),
      ("surrogate", .string surrogate)]
  | .noIdentifier entity => .object [
      ("kind", .string "no_identifier"), ("entity", .string entity)]
  | .build entity error => .object [
      ("kind", .string "build"), ("entity", .string entity), ("error", error.json)]
  | .render entity template message => .object [
      ("kind", .string "render"), ("entity", .string entity), ("template", .string template),
      ("message", .string message)]

def PlannedFile.json (f : PlannedFile) : Json := .object [
  ("path", .string f.path), ("template", .string f.template.name), ("model", f.model.json),
  ("content", .string f.content)]

def Report.json (r : Report) : Json := .object [
  ("generated", Json.strings r.generated), ("written", Json.strings r.written),
  ("warnings", .array (r.warnings.map Warning.json))]

inductive OverviewError
  | load (error : LoadError)
  | generate (error : GenerateError)
deriving DecidableEq, Repr

def OverviewError.message : OverviewError → String
  | .load error => error.message
  | .generate error => error.message

/-- the plan for all entities of a document, with the problems passed over -/
def overview (strict : Bool) (source : String) : Except OverviewError Json := do
  let loaded ← (load strict source).mapError .load
  let names := loaded.schema.entities.map (·.name)
  let p ← (plan .all .json loaded.schema names).mapError .generate
  .ok (.object [
    ("structural", .array (loaded.problems.map Problem.json)),
    ("artifacts", .array (p.files.map PlannedFile.json)), ("report", p.report.json)])

end EntityScaffold

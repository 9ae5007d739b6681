import EntityScaffold.Artifact.Endpoint
import EntityScaffold.Artifact.Form
import EntityScaffold.Artifact.Service
import EntityScaffold.Artifact.Validation

/-!
View models: what a template is filled in with. Each has one JSON form, in which the members stand in
a fixed order and the kind of model comes first.
-/

namespace EntityScaffold.Artifact

/-- the entities that were generated, for the artifacts that list them -/
structure IndexModel where
  entries : List Names
deriving DecidableEq, Repr

/-- what a template is filled in with -/
inductive ViewModel
  | validation (m : ValidationModel)
  | service (m : ServiceModel)
  | endpoint (m : EndpointModel)
  | form (m : FormModel)
  | index (m : IndexModel)
deriving DecidableEq, Repr

/-! ## Spellings -/

def validatorKindName : ValidatorKind → String
  | .coercedNumber => "coerced_number"
  | .coercedBoolean => "coerced_boolean"
  | .string => "string"
  | .opaqueValue => "opaque"

/-- the way a value is shown, as written -/
def displayName : Display → String
  | .text => "text"
  | .number => "number"
  | .boolean => "boolean"
  | .date => "date"
  | .relation => "relation"
  | .unknown => "unknown"

def Operation.name : Operation → String
  | .create => "create"
  | .findOne => "find_one"
  | .findMany => "find_many"
  | .update => "update"
  | .delete => "delete"

def RouteKind.name : RouteKind → String
  | .collection => "collection"
  | .item => "item"

/-! ## JSON forms -/

def namesJson (n : Names) : Json := .object [
  ("name", .string n.name), ("camel", .string n.camel), ("plural", .string n.plural),
  ("camel_plural", .string n.camelPlural), ("resource", .string n.resource),
  ("file_stem", .string n.fileStem)]

def Identifier.json (id : Identifier) : Json := .object [
  ("field", .string id.field), ("scalar", .string id.scalar.name),
  ("target_type", .string id.scalar.targetType), ("validator", .string id.scalar.validator),
  ("surrogate", .bool id.surrogate)]

def identifierJson (id : Option Identifier) : Json :=
  match id with
  | some id => id.json
  | none => .null

/-- the way a field is validated -/
def FieldValidator.json : FieldValidator → Json
  | .scalar kind => .object [
      ("type", .string "scalar"), ("scalar", .string kind.name),
      ("kind", .string (validatorKindName kind.validatorKind)),
      ("expr", .string kind.validator)]
  | .enum name => .object [("type", .string "enum"), ("name", .string name)]
  | .relation target idValidator multiple => .object [
      ("type", .string "relation"), ("target", .string target),
      ("id_schema_name", .string idValidator), ("multiple", .bool multiple)]

def keyTargetJson (k : Option KeyTarget) : Json :=
  match k with
  | some k => .object [("target", .string k.target), ("references", Json.strings k.references)]
  | none => .null

def ValidatorField.json (v : ValidatorField) : Json := .object [
  ("name", .string v.name), ("validator", v.validator.json), ("optional", .bool v.optional),
  ("accepts_many", .bool v.acceptsMany), ("foreign_key", keyTargetJson v.keyTarget)]

def Import.json (i : Import) : Json := .object [
  ("entity", .string i.entity), ("id_schema_name", .string i.idValidator),
  ("file_stem", .string i.fileStem)]

def ValidationModel.members (m : ValidationModel) : List (String × Json) := [
  ("names", namesJson m.names), ("schema_name", .string m.names.bodyValidator),
  ("query_schema_name", .string m.names.queryValidator),
  ("id_schema_name", .string m.names.idValidator), ("identifier", identifierJson m.identifier),
  ("body", .array (m.body.map ValidatorField.json)),
  ("query", .array (m.query.map ValidatorField.json)),
  ("imports", .array (m.imports.map Import.json))]

/-- a plan for finding many records -/
def FindManyPlan.json (p : FindManyPlan) : Json := .object [
  ("id_field", .string p.idField), ("accepts_many", .bool p.acceptsMany),
  ("start_param", .string p.startParam), ("end_param", .string p.endParam)]

def operationJson (op : Operation × String) : Json := .object [
  ("kind", .string op.1.name), ("function", .string op.2)]

def Connection.json (c : Connection) : Json := .object [
  ("field", .string c.field), ("target", .string c.target), ("target_key", .string c.targetKey)]

def ServiceModel.members (m : ServiceModel) : List (String × Json) := [
  ("names", namesJson m.names), ("identifier", m.identifier.json),
  ("operations", .array (m.operations.map operationJson)), ("find_many", m.findMany.json),
  ("connections", .array (m.connections.map Connection.json))]

def Handler.json (h : Handler) : Json := .object [
  ("operation", .string h.operation.name),
  ("methods", Json.strings (h.methods.map Method.name)), ("function", .string h.function),
  ("validator", .string h.validator), ("status", Json.nat h.status)]

def Route.json (r : Route) : Json := .object [
  ("kind", .string r.kind.name), ("path", .string r.path),
  ("handlers", .array (r.handlers.map Handler.json))]

def EndpointModel.members (m : EndpointModel) : List (String × Json) := [
  ("names", namesJson m.names), ("collection", m.collection.json), ("item", m.item.json)]

/-- where choices come from, or null -/
def resourceJson (r : Option ResourceRef) : Json :=
  match r with
  | some r => .object [("name", .string r.name), ("option_text", .string r.optionText)]
  | none => .null

def FormField.json (f : FormField) : Json := .object [
  ("source", .string f.source), ("label", .string f.label),
  ("kind", .string (displayName f.kind)), ("required", .bool f.required),
  ("read_only", .bool f.readOnly), ("multiple", .bool f.multiple),
  ("resource", resourceJson f.resource)]

def FormModel.members (m : FormModel) : List (String × Json) := [
  ("names", namesJson m.names), ("identifier", Json.optional m.identifier),
  ("fields", .array (m.fields.map FormField.json))]

def IndexModel.members (m : IndexModel) : List (String × Json) := [
  ("entries", .array (m.entries.map namesJson))]

def ViewModel.kindName : ViewModel → String
  | .validation _ => "validation"
  | .service _ => "service"
  | .endpoint _ => "endpoint"
  | .form _ => "ui"
  | .index _ => "index"

/-- the members of a model, its kind aside -/
def ViewModel.members : ViewModel → List (String × Json)
  | .validation m => m.members
  | .service m => m.members
  | .endpoint m => m.members
  | .form m => m.members
  | .index m => m.members

def ViewModel.json (m : ViewModel) : Json := .object (("artifact", .string m.kindName) :: m.members)

end EntityScaffold.Artifact

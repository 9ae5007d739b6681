import EntityScaffold.Artifact.Model
import EntityScaffold.Json.Text
import EntityScaffold.Schedule
import EntityScaffold.Schema.Emission
import EntityScaffold.Schema.Pairing
import EntityScaffold.Text.Quoted

/-!
Planning a generation. The selected entities are put in order and the artifacts of each are built and
rendered; an entity that fails, in whatever part, yields one warning and no artifact, and the others
go on. The artifacts that list the entities come last and list exactly those that succeeded; when one
of these cannot be rendered, or a name has no plural, the whole plan fails. The entities of a plan do not
depend on one another, so they can be shared among workers.
-/

namespace EntityScaffold

open Artifact

/-! ## Vocabulary -/

/-- the kinds of artifact that can be switched on and off -/
inductive ArtifactKind
  | validation
  | service
  | endpoint
  | ui
deriving DecidableEq, Repr

namespace ArtifactKind

def all : List ArtifactKind := [.validation, .service, .endpoint, .ui]

def name : ArtifactKind → String
  | .validation => "validation"
  | .service => "service"
  | .endpoint => "endpoint"
  | .ui => "ui"

def ofName? (name : String) : Option ArtifactKind := all.find? (·.name = name)

end ArtifactKind

/-- the templates that models are rendered with -/
inductive Template
  | validation
  | validationIndex
  | service
  | endpointCollection
  | endpointItem
  | uiFields
  | uiResources
deriving DecidableEq, Repr

def Template.name : Template → String
  | .validation => "validation"
  | .validationIndex => "validation-index"
  | .service => "service"
  | .endpointCollection => "endpoint-collection"
  | .endpointItem => "endpoint-item"
  | .uiFields => "ui-fields"
  | .uiResources => "ui-resources"

/-- the reason a template could not be filled in -/
structure RenderError where
  template : String
  message : String
deriving DecidableEq, Repr

def RenderError.text (e : RenderError) : String := "template `" ++ e.template ++ "`: " ++ e.message

/-- how models become text, and the extension of the files that hold it -/
structure Renderer where
  render : Template → ViewModel → Except RenderError String
  extension : String

/-- the content of a model in JSON, its keys in ascending order -/
def jsonContent (template : Template) (model : ViewModel) : String :=
  let document := Json.object [("template", .string template.name), ("model", model.json)]
  document.sorted.spread ++ "\n"

def Renderer.json : Renderer := ⟨fun template model => .ok (jsonContent template model), "json"⟩

/-- what is generated, and in which order -/
structure Options where
  strategy : Emission.Strategy
  kinds : List ArtifactKind
deriving DecidableEq, Repr

/-- everything, dependencies first -/
def Options.all : Options := ⟨.topological, ArtifactKind.all⟩

def Options.enabled (o : Options) (kind : ArtifactKind) : Bool := o.kinds.contains kind

/-! ## Warnings -/

/-- something that generation left out or worked around -/
inductive Warning
  | unknownEntity (name : String)
  | cycle (cycleBreak : CycleBreak)
  /-- no field is marked as identifier; another stands in -/
  | missingIdentifier (entity surrogate : String)
  /-- there is no scalar identifier, hence no service and no endpoint -/
  | noIdentifier (entity : String)
  /-- nothing was generated for the entity -/
  | build (entity : String) (error : BuildError)
  /-- nothing was generated for the entity -/
  | render (entity : String) (template : String) (message : String)
deriving DecidableEq, Repr

def Warning.message : Warning → String
  | .unknownEntity name => "unknown model `" ++ name ++ "` in selection"
  | .cycle cycleBreak =>
    "relation cycle: `" ++ cycleBreak.entity ++ "` emitted before "
      ++ Text.quoteList cycleBreak.waitingOn
  | .missingIdentifier entity surrogate =>
    "model `" ++ entity ++ "` has no @id field; using `" ++ surrogate ++ "`"
  | .noIdentifier entity =>
    "model `" ++ entity ++ "` has no scalar field; skipped service and endpoint"
  | .build entity error => "skipped model `" ++ entity ++ "`: " ++ error.message
  | .render entity template message =>
    "skipped model `" ++ entity ++ "`: template `" ++ template ++ "`: " ++ message

/-- the reason a generation fails as a whole -/
inductive GenerateError
  | render (template : String) (cause : RenderError)
  | write (path : String) (reason : String)
  | noPlural (name : String)
deriving DecidableEq, Repr

def GenerateError.message : GenerateError → String
  | .render template cause => "Failed to render " ++ template ++ ": " ++ cause.text
  | .write path reason => "Failed to write " ++ path ++ ": " ++ reason
  | .noPlural name => "No plural for model `" ++ name ++ "`"

/-! ## Plans -/

/-- a file to be written, with the model it shows -/
structure PlannedFile where
  path : String
  template : Template
  model : ViewModel
  content : String
deriving DecidableEq, Repr

structure Report where
  /-- the entities that have artifacts, in the order of emission -/
  generated : List String
  written : List String
  warnings : List Warning
deriving DecidableEq, Repr

/-- the files of a generation, and what is to be said about it -/
structure Plan where
  files : List PlannedFile
  report : Report
deriving DecidableEq, Repr

/-- nothing to generate -/
def Plan.empty : Plan := ⟨[], ⟨[], [], []⟩⟩

/-! ## One entity -/

/-- a model with its template and the place of its file, extension aside -/
structure Part where
  template : Template
  stem : String
  model : ViewModel
deriving DecidableEq, Repr

/-- the parts of a kind, if it is switched on -/
def partsOf (o : Options) (kind : ArtifactKind) (parts : Build (List Part)) : Build (List Part) :=
  if o.enabled kind then parts else .ok []

/-- the service and the endpoints of an entity with an identifier -/
def identifiedParts (o : Options) (s : Schema) (e : Entity) (names : Names) (id : Identifier) :
    Build (List Part) := do
  let service ← partsOf o .service do
    let m ← service s e
    .ok [⟨.service, "services/" ++ names.fileStem, .service m⟩]
  let endpoint ← partsOf o .endpoint do
    let m ← endpoint e
    .ok [
      ⟨.endpointCollection, "api/" ++ names.resource ++ "/index", .endpoint m⟩,
      ⟨.endpointItem, "api/" ++ names.resource ++ "/[" ++ id.field ++ "]", .endpoint m⟩]
  .ok (service ++ endpoint)

/-- all parts of an entity -/
def entityParts (o : Options) (s : Schema) (e : Entity) : Build (List Part) := do
  let names ← namesOf e.name
  let validation ← partsOf o .validation do
    let m ← validation s e
    .ok [⟨.validation, "validation/" ++ names.fileStem, .validation m⟩]
  let identified ←
    match identifier? e with
    | some id => identifiedParts o s e names id
    | none => .ok []
  let form ← partsOf o .ui do
    let m ← form s e
    .ok [⟨.uiFields, "ui/" ++ names.fileStem, .form m⟩]
  .ok (validation ++ identified ++ form)

def Renderer.file (r : Renderer) (p : Part) : Except RenderError PlannedFile := do
  let content ← r.render p.template p.model
  .ok ⟨p.stem ++ "." ++ r.extension, p.template, p.model, content⟩

/-- the file of a part of an entity; the warning when it cannot be rendered -/
def entityFile (r : Renderer) (e : Entity) (p : Part) : Except Warning PlannedFile :=
  (r.file p).mapError fun error => .render e.name p.template.name error.text

/-- what is said about the identifier of an entity -/
def identifierNotes (e : Entity) : List Warning :=
  match identifier? e with
  | some id => if id.surrogate then [.missingIdentifier e.name id.field] else []
  | none => [.noIdentifier e.name]

inductive EntityResult
  | generated (files : List PlannedFile) (notes : List Warning)
  | skipped (warning : Warning)
deriving DecidableEq, Repr

/-- the files of an entity, or the warning that it was skipped -/
def planEntity (o : Options) (r : Renderer) (s : Schema) (e : Entity) :
    Except GenerateError EntityResult :=
  match entityParts o s e with
  | .error (.noPlural name) => .error (.noPlural name)
  | .error (.flaw error) => .ok (.skipped (.build e.name error))
  | .ok parts =>
    match parts.mapM (entityFile r e) with
    | .error warning => .ok (.skipped warning)
    | .ok files => .ok (.generated files (identifierNotes e))

def EntityResult.files : EntityResult → List PlannedFile
  | .generated files _ => files
  | .skipped _ => []

/-- what is said about an entity -/
def EntityResult.warnings : EntityResult → List Warning
  | .generated _ notes => notes
  | .skipped warning => [warning]

def EntityResult.isGenerated : EntityResult → Bool
  | .generated _ _ => true
  | .skipped _ => false

/-! ## All entities -/

def indexModel (entities : List Entity) : Except GenerateError IndexModel := do
  let entries ← entities.mapM fun e =>
    match Names.of? e.name with
    | some names => .ok names
    | none => .error (.noPlural e.name)
  .ok ⟨entries⟩

/-- the file that lists the entities for a kind of artifact, if it is switched on -/
def indexFile (o : Options) (r : Renderer) (kind : ArtifactKind) (template : Template)
    (stem : String) (index : IndexModel) : Except GenerateError (List PlannedFile) :=
  if o.enabled kind then
    match r.file ⟨template, stem, .index index⟩ with
    | .ok file => .ok [file]
    | .error error => .error (.render template.name error)
  else .ok []

/-- the plan for entities in the order of emission, from what became of each -/
def assemble (o : Options) (r : Renderer) (unknown : List String) (emission : Emission)
    (results : List EntityResult) : Except GenerateError Plan := do
  let generated := ((emission.entities.zip results).filter (·.2.isGenerated)).map (·.1)
  let index ← indexModel generated
  let validators ← indexFile o r .validation .validationIndex "validation/index" index
  let resources ← indexFile o r .ui .uiResources "ui/resources" index
  .ok {
    files := results.flatMap EntityResult.files ++ validators ++ resources
    report := {
      generated := generated.map (·.name)
      written := []
      warnings :=
        unknown.map .unknownEntity ++ emission.cycleBreaks.map .cycle
          ++ results.flatMap EntityResult.warnings } }

/-- the plan for entities in the order of emission, each of them a job -/
def planEmission (schedule : Schedule) (o : Options) (r : Renderer) (s : Schema) (unknown : List String)
    (emission : Emission) : Except GenerateError Plan := do
  let results ← (schedule.map (planEntity o r s) emission.entities).mapM id
  assemble o r unknown emission results

/-- the plan for the entities of the names -/
def planWith (schedule : Schedule) (o : Options) (r : Renderer) (s : Schema) (names : List String) :
    Except GenerateError Plan :=
  if names = [] then .ok .empty
  else
    let selection := s.select names
    planEmission schedule o r s selection.unknown (Emission.order o.strategy selection.entities)

/-- a plan made one entity after the other -/
def plan (o : Options) (r : Renderer) (s : Schema) (names : List String) : Except GenerateError Plan :=
  planWith .sequential o r s names

end EntityScaffold

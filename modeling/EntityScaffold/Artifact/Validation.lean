import EntityScaffold.Artifact.Target

/-!
Validators of an entity: one for the payload of a creation or an update, one for a look-up by
identifier. A relation field is validated by the identifier validator of its target, which is
imported once for each target other than the entity itself.
-/

namespace EntityScaffold.Artifact

inductive FieldValidator
  | scalar (scalar : Scalar)
  | enum (name : String)
  /-- by the identifier validator of the target -/
  | relation (target : String) (idValidator : String) (multiple : Bool)
deriving DecidableEq, Repr

/-- the entity that a foreign key refers to, and the fields that hold what it holds -/
structure KeyTarget where
  target : String
  references : List String
deriving DecidableEq, Repr

structure ValidatorField where
  name : String
  validator : FieldValidator
  optional : Bool
  /-- a list of values is accepted as well as one -/
  acceptsMany : Bool
  keyTarget : Option KeyTarget
deriving DecidableEq, Repr

/-- an identifier validator of another entity -/
structure Import where
  entity : String
  idValidator : String
  fileStem : String
deriving DecidableEq, Repr

structure ValidationModel where
  names : Names
  identifier : Option Identifier
  body : List ValidatorField
  query : List ValidatorField
  imports : List Import
deriving DecidableEq, Repr

/-- a payload may leave the field out -/
def isOptional (f : Field) : Bool :=
  !f.isRequired || f.isReadOnly || f.default.isSome || (f.isRelation && f.isList)

/-- the fields validated so far, and the imports they need -/
structure ValidationDraft where
  body : List ValidatorField
  imports : List Import
deriving DecidableEq, Repr

/-- the imports with that of a related entity, unless it is the entity itself or already there -/
def addImport (e related : Entity) (imports : List Import) : Build (List Import) :=
  if related.name ≠ e.name && !imports.any (·.entity = related.name) then do
    let names ← namesOf related.name
    .ok (imports ++ [⟨related.name, idValidatorName related.name, names.fileStem⟩])
  else .ok imports

/-- the validator of a field, and the imports once it is among them -/
def fieldValidator (s : Schema) (e : Entity) (f : Field) (imports : List Import) :
    Build (FieldValidator × List Import) :=
  match f.scalar? with
  | some scalar => .ok (.scalar scalar, imports)
  | none => do
    match ← target s e f with
    | .entity related =>
      let imports ← addImport e related imports
      .ok (.relation related.name (idValidatorName related.name) f.isList, imports)
    | .enum name => .ok (.enum name, imports)

/-- what a foreign key refers to; none for any other field -/
def keyTarget? (s : Schema) (f : Field) : Option KeyTarget :=
  if f.isForeignKey then (s.relationOf? f).map fun r => ⟨r.target, r.references⟩ else none

/-- the draft with one more field -/
def ValidationDraft.add (s : Schema) (e : Entity) (d : ValidationDraft) (f : Field) :
    Build ValidationDraft := do
  let isId := (identifier? e).any (·.field = f.name)
  let (validator, imports) ← fieldValidator s e f d.imports
  .ok {
    body := d.body ++ [{
      name := f.name
      validator
      optional := isId || isOptional f
      acceptsMany := isId
      keyTarget := keyTarget? s f }]
    imports }

/-- the validators of an entity -/
def validation (s : Schema) (e : Entity) : Build ValidationModel := do
  let names ← namesOf e.name
  let d ← e.fields.foldlM (ValidationDraft.add s e) ⟨[], []⟩
  let identifier := identifier? e
  .ok {
    names, identifier
    body := d.body
    query := (d.body.filter fun v => identifier.any (·.field = v.name)).map
      fun v => { v with optional := false }
    imports := d.imports }

end EntityScaffold.Artifact

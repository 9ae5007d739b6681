import EntityScaffold.Artifact.Target

/-!
Forms for the records of an entity: for each field a label, the way it is shown, and for a relation
the resource that offers the choices.
-/

namespace EntityScaffold.Artifact

/-- where the choices of a relation field come from -/
structure ResourceRef where
  name : String
  /-- the field of the related entity that a choice is shown by -/
  optionText : String
deriving DecidableEq, Repr

structure FormField where
  source : String
  label : String
  kind : Display
  required : Bool
  readOnly : Bool
  multiple : Bool
  resource : Option ResourceRef
deriving DecidableEq, Repr

structure FormModel where
  names : Names
  identifier : Option String
  fields : List FormField
deriving DecidableEq, Repr

/-- the first text field that is no identifier, else the field marked as identifier, else `id` -/
def optionText (related : Entity) : String :=
  match related.scalarFields.find? fun f => !f.isId && f.scalar? = some .string with
  | some f => f.name
  | none =>
    match related.idField? with
    | some f => f.name
    | none => "id"

/-- the way a field is shown, and the resource of its choices -/
def fieldDisplay (s : Schema) (e : Entity) (f : Field) : Build (Display × Option ResourceRef) :=
  match f.scalar? with
  | some scalar => .ok (scalar.display, none)
  | none => do
    match ← target s e f with
    | .entity related =>
      let name ← resourceOf related.name
      .ok (.relation, some ⟨name, optionText related⟩)
    | .enum _ => .ok (.text, none)

/-- a field of the form -/
def formField (s : Schema) (e : Entity) (f : Field) : Build FormField := do
  let (kind, resource) ← fieldDisplay s e f
  .ok {
    source := f.name
    label := String.ofList (Text.titleCase f.name.toList)
    kind
    required := f.isRequired && !f.isList && f.default.isNone
    readOnly := f.isReadOnly
    multiple := f.isList
    resource }

def form (s : Schema) (e : Entity) : Build FormModel := do
  let fields ← e.fields.mapM (formField s e)
  let names ← namesOf e.name
  .ok ⟨names, (identifier? e).map (·.field), fields⟩

end EntityScaffold.Artifact

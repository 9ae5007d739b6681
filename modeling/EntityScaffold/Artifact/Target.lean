import EntityScaffold.Names
import EntityScaffold.Schema.Basic

/-!
What the artifacts of an entity rest on: the field that identifies a record, and what the type of a
relation field refers to.
-/

namespace EntityScaffold.Artifact

/-- the reason an artifact of an entity cannot be built -/
inductive BuildError
  | reference (entity field target : String)
  | noIdentifier (entity : String)
deriving DecidableEq, Repr

def BuildError.message : BuildError → String
  | .reference entity field target =>
    "model `" ++ entity ++ "`: field `" ++ field ++ "` refers to unknown model `" ++ target ++ "`"
  | .noIdentifier entity => "model `" ++ entity ++ "` has no scalar field to identify records by"

/-- the reason a build stops: a flaw of one entity, or a name without a plural -/
inductive BuildFailure
  | flaw (error : BuildError)
  | noPlural (name : String)
deriving DecidableEq, Repr

abbrev Build (α : Type) := Except BuildFailure α

/-- the spellings of a name -/
def namesOf (declared : String) : Build Names :=
  match Names.of? declared with
  | some names => .ok names
  | none => .error (.noPlural declared)

def resourceOf (entity : String) : Build String :=
  match resourceName? entity with
  | some resource => .ok resource
  | none => .error (.noPlural entity)

/-! ## Identifiers -/

structure Identifier where
  field : String
  scalar : Scalar
  /-- no field is marked as identifier; the first scalar field stands in -/
  surrogate : Bool
deriving DecidableEq, Repr

/-- the field marked as identifier if it is a scalar, or the first scalar field when none is marked -/
def identifier? (e : Entity) : Option Identifier :=
  match e.idField? with
  | some f => f.scalar?.map fun scalar => ⟨f.name, scalar, false⟩
  | none => e.scalarFields.head?.bind fun f => f.scalar?.map fun scalar => ⟨f.name, scalar, true⟩

def requireIdentifier (e : Entity) : Build Identifier :=
  match identifier? e with
  | some id => .ok id
  | none => .error (.flaw (.noIdentifier e.name))

/-! ## Targets -/

/-- what the type of a relation field refers to -/
inductive Target
  | entity (e : Entity)
  | enum (name : String)
deriving DecidableEq, Repr

/-- the entity of the field's type, else the enum -/
def target (s : Schema) (e : Entity) (f : Field) : Build Target :=
  match s.entity? f.baseType with
  | some related => .ok (.entity related)
  | none =>
    if s.isEnum f.baseType then .ok (.enum f.baseType)
    else .error (.flaw (.reference e.name f.name f.baseType))

end EntityScaffold.Artifact

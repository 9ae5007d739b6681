import EntityScaffold.Schema.Scalar

/-!
Schemas: entities with their fields, the relations between entities, and the names of enums. A
relation is kept once, in the schema's list of relations, and every field that takes part in it
carries its position in that list.
-/

namespace EntityScaffold

/-- how a field takes part in a relation -/
inductive Link
  /-- a scalar field outside every relation -/
  | none
  /-- a field of entity type without a relation clause -/
  | implicit
  /-- a field of the relation at this position of the schema's list -/
  | bound (relation : Nat)
deriving DecidableEq, Repr

structure Field where
  name : String
  /-- the type as written, with its `[]` and `?` -/
  rawType : String
  isId : Bool
  isUnique : Bool
  /-- filled with the time of creation -/
  isCreatedAt : Bool
  /-- filled with the time of the last change -/
  isUpdatedAt : Bool
  /-- the generator that fills the field, such as `autoincrement()` -/
  generatedBy : Option String
  /-- the literal that fills the field when none is given -/
  default : Option String
  link : Link
deriving DecidableEq, Repr

/-- what happens to a record when the record it refers to changes -/
structure Restrictions where
  onUpdate : Option String
  onDelete : Option String
deriving DecidableEq, Repr

structure Relation where
  name : Option String
  /-- the entity referred to -/
  target : String
  /-- the field that declares the relation -/
  field : String
  /-- foreign keys on the declaring entity -/
  fields : List String
  /-- the fields of the target they refer to -/
  references : List String
  restrictions : Restrictions
  multiple : Bool
  required : Bool
deriving DecidableEq, Repr

/-- an entity, with the number of the line that opens it -/
structure Entity where
  name : String
  line : Nat
  fields : List Field
deriving DecidableEq, Repr

/-- entities, relations and enum names in the order of the document -/
structure Schema where
  entities : List Entity
  relations : List Relation
  enums : List String
deriving DecidableEq, Repr

def Schema.empty : Schema := ⟨[], [], []⟩

/-! ## Types as written -/

/-- the type without one `?` and then one `[]` at its end -/
def stripMarkers (rawType : List Char) : List Char :=
  let single := (['?'].isSuffixOf? rawType).getD rawType
  (['[', ']'].isSuffixOf? single).getD single

namespace Field

variable (f : Field)

/-- the field holds a list of values -/
def isList : Bool := ['[', ']'].isSuffixOf f.rawType.toList

/-- the field must have a value -/
def isRequired : Bool := !(['?'].isSuffixOf f.rawType.toList)

/-- the name of the field's type -/
def baseType : String := String.ofList (stripMarkers f.rawType.toList)

def scalar? : Option Scalar := Scalar.ofName? (stripMarkers f.rawType.toList)

/-- the field's type is an entity or an enum -/
def isRelation : Bool := f.scalar?.isNone

/-- the field is filled by a generator -/
def isGenerated : Bool := f.generatedBy.isSome

/-- no caller sets the field -/
def isReadOnly : Bool := f.isGenerated || f.isCreatedAt || f.isUpdatedAt

/-- the relation the field takes part in, by position -/
def relation? : Option Nat :=
  match f.link with
  | .bound relation => some relation
  | _ => none

/-- a scalar field that takes part in a relation -/
def isForeignKey : Bool := !f.isRelation && f.relation?.isSome

end Field

/-! ## Looking up -/

namespace Entity

variable (e : Entity)

def field? (name : String) : Option Field := e.fields.find? (·.name = name)

/-- the first field marked as the identifier -/
def idField? : Option Field := e.fields.find? (·.isId)

def scalarFields : List Field := e.fields.filter (!·.isRelation)

/-- the fields whose type is an entity or an enum -/
def relationFields : List Field := e.fields.filter (·.isRelation)

/-- how many relation fields hold lists -/
def listRelationCount : Nat := e.relationFields.countP (·.isList)

end Entity

namespace Schema

variable (s : Schema)

def entity? (name : String) : Option Entity := s.entities.find? (·.name = name)

def isEnum (name : String) : Bool := s.enums.contains name

/-- the relation a field takes part in -/
def relationOf? (f : Field) : Option Relation := f.relation?.bind fun i => s.relations[i]?

end Schema

end EntityScaffold

import EntityScaffold.Schema.Basic

/-!
Binding foreign keys. A relation names the scalar fields of its entity that hold its keys; binding
links each of them to the relation, so that the declaring field and its keys carry the same position.
A key that several relations name belongs to the last of them. Binding fails on the first key that is
no scalar field of its entity, and on entities that share a name.
-/

namespace EntityScaffold

/-- the reason a schema cannot be bound -/
inductive BindError
  | duplicateEntity (name : String)
  | unknownKey (entity relationField key : String)
  | keyNotScalar (entity relationField key : String)
deriving DecidableEq, Repr

def BindError.message : BindError → String
  | .duplicateEntity name => "model `" ++ name ++ "` is declared more than once"
  | .unknownKey entity relationField key =>
    "model `" ++ entity ++ "`: relation `" ++ relationField ++ "` names unknown foreign key `" ++ key
      ++ "`"
  | .keyNotScalar entity relationField key =>
    "model `" ++ entity ++ "`: foreign key `" ++ key ++ "` of relation `" ++ relationField
      ++ "` is not a scalar field"

namespace Schema

/-- the first name that one of `seen` or an earlier name repeats -/
def firstRepeated (seen : List String) : List String → Option String
  | [] => none
  | name :: rest => if seen.contains name then some name else firstRepeated (name :: seen) rest

/-- a key that a relation names, with the field that declares the relation -/
structure KeyUse where
  relation : Nat
  relationField : String
  key : String
deriving DecidableEq, Repr

/-- the keys that the relations of an entity name, field by field -/
def keyUses (relations : List Relation) (e : Entity) : List KeyUse :=
  e.relationFields.flatMap fun f =>
    match f.relation? with
    | none => []
    | some i =>
      match relations[i]? with
      | none => []
      | some r => r.fields.map fun key => ⟨i, f.name, key⟩

def linkField (name : String) (relation : Nat) (fields : List Field) : List Field :=
  fields.map fun f => if f.name = name then { f with link := .bound relation } else f

def bindKey (entity : String) (fields : List Field) (use : KeyUse) :
    Except BindError (List Field) :=
  match fields.find? (·.name = use.key) with
  | none => .error (.unknownKey entity use.relationField use.key)
  | some f =>
    if f.isRelation then .error (.keyNotScalar entity use.relationField use.key)
    else .ok (linkField use.key use.relation fields)

/-- the entity with its keys bound -/
def bindEntity (relations : List Relation) (e : Entity) : Except BindError Entity := do
  let fields ← (keyUses relations e).foldlM (bindKey e.name) e.fields
  .ok { e with fields }

/-- the schema with all keys bound -/
def bindKeys (s : Schema) : Except BindError Schema :=
  match firstRepeated [] (s.entities.map (·.name)) with
  | some name => .error (.duplicateEntity name)
  | none => do
    let entities ← s.entities.mapM (bindEntity s.relations)
    .ok { s with entities }

end Schema

end EntityScaffold

import EntityScaffold.Schema.Basic

/-!
The two sides of a relation. A relation field is answered by a field of the target that points back:
the first whose relation has the same name, or has none if the field's has none. Whether each side
holds a list gives the multiplicity of the relation.
-/

namespace EntityScaffold

/-- how many records stand on each side of a relation, the side of the field first -/
inductive Multiplicity
  | oneToOne
  | oneToMany
  | manyToOne
  | manyToMany
deriving DecidableEq, Repr

/-- the multiplicity of a relation between sides that hold lists or not -/
def Multiplicity.ofSides (isList backIsList : Bool) : Multiplicity :=
  match isList, backIsList with
  | false, false => .oneToOne
  | true, false => .oneToMany
  | false, true => .manyToOne
  | true, true => .manyToMany

/-- entities picked by name, and the names that no entity has -/
structure Selection where
  entities : List Entity
  unknown : List String
deriving DecidableEq, Repr

def Selection.add (s : Schema) (chosen : Selection) (name : String) : Selection :=
  match s.entity? name with
  | none => { chosen with unknown := chosen.unknown ++ [name] }
  | some e =>
    if chosen.entities.any (·.name = e.name) then chosen
    else { chosen with entities := chosen.entities ++ [e] }

namespace Schema

variable (s : Schema)

/-- the name of the relation a field takes part in -/
def relationName? (f : Field) : Option String := (s.relationOf? f).bind (·.name)

/-- the field `candidate` of `target` can answer the field `f` of `owner` -/
def answers (owner target : Entity) (f candidate : Field) : Bool :=
  candidate.baseType = owner.name
    && !(target.name = owner.name && candidate.name = f.name)
    && s.relationName? candidate = s.relationName? f

/-- the field on the other side of a relation -/
def backReference? (owner : Entity) (f : Field) : Option Field :=
  (s.entity? f.baseType).bind fun target => target.relationFields.find? (s.answers owner target f)

/-- the multiplicity of the relation of a field; none for a scalar field -/
def multiplicity? (owner : Entity) (f : Field) : Option Multiplicity :=
  if f.isRelation then
    some (.ofSides f.isList ((s.backReference? owner f).any (·.isList)))
  else none

/-- the entities of the names, each once, in the order of the names -/
def select (names : List String) : Selection := names.foldl (Selection.add s) ⟨[], []⟩

end Schema

end EntityScaffold

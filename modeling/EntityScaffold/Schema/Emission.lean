import EntityScaffold.Schema.Basic

/-!
The order in which entities are emitted. An entity depends on the entities that its list relations
hold, since its validators refer to theirs. Topological order emits the first entity that waits for
none; when all wait for one another, it emits the one with the fewest list relations and reports what
that entity was waiting for. The other order goes by the number of list relations alone.
-/

namespace EntityScaffold

/-- an entity emitted before everything it depends on -/
structure CycleBreak where
  entity : String
  waitingOn : List String
deriving DecidableEq, Repr

/-- entities in the order of emission, and the cycles broken on the way -/
structure Emission where
  entities : List Entity
  cycleBreaks : List CycleBreak
deriving DecidableEq, Repr

namespace Emission

/-- how entities are ordered -/
inductive Strategy
  /-- by the number of list relations, smallest first -/
  | fanOut
  /-- dependencies first -/
  | topological
deriving DecidableEq, Repr

/-- the names a strategy is asked for by -/
def Strategy.ofName? (name : String) : Option Strategy :=
  if name = "fan-out" || name = "fanout" then some .fanOut
  else if name = "topological" || name = "topo" then some .topological
  else none

/-- the name a strategy is shown under -/
def Strategy.name : Strategy → String
  | .fanOut => "fan-out"
  | .topological => "topological"

/-! ## Dependencies -/

/-- a name put at its place among ascending names; a name already there stays -/
def insertName (name : String) : List String → List String
  | [] => [name]
  | other :: rest =>
    if name < other then name :: other :: rest
    else if name = other then other :: rest
    else other :: insertName name rest

/-- names in ascending order, each once -/
def sortedNames (names : List String) : List String := names.foldr insertName []

/-- the entities among `all` that an entity depends on, itself left out -/
def dependencies (all : List Entity) (e : Entity) : List String :=
  sortedNames (((e.relationFields.filter (·.isList)).map (·.baseType)).filter fun name =>
    name ≠ e.name && all.any (·.name = name))

/-- the dependencies of an entity that are not yet emitted -/
def waitingOn (all : List Entity) (done : List String) (e : Entity) : List String :=
  (dependencies all e).filter (!done.contains ·)

/-! ## Topological order -/

/-- the first entity of a kind, and the others -/
def extractFirst (p : Entity → Bool) : List Entity → Option (Entity × List Entity)
  | [] => none
  | e :: rest =>
    if p e then some (e, rest)
    else (extractFirst p rest).map fun (found, others) => (found, e :: others)

/-- no entity of the list has fewer list relations -/
def isLeast (entities : List Entity) (e : Entity) : Bool :=
  entities.all fun other => e.listRelationCount ≤ other.listRelationCount

/-- the entity emitted next, the cycle broken for it if it waits for others, and what remains -/
structure Choice where
  entity : Entity
  cycleBreak : Option CycleBreak
  remaining : List Entity
deriving DecidableEq, Repr

/-- the next entity: the first that waits for none, else the first with the fewest list relations -/
def choose? (all : List Entity) (done : List String) (remaining : List Entity) : Option Choice :=
  match extractFirst (fun e => (waitingOn all done e).isEmpty) remaining with
  | some (e, rest) => some ⟨e, none, rest⟩
  | none =>
    (extractFirst (isLeast remaining) remaining).map fun (e, rest) =>
      ⟨e, some ⟨e.name, waitingOn all done e⟩, rest⟩

/-- at most `n` of the remaining entities, in the order in which they are chosen -/
def emitFrom (all : List Entity) : Nat → List String → List Entity → Emission
  | 0, _, _ => ⟨[], []⟩
  | n + 1, done, remaining =>
    match choose? all done remaining with
    | none => ⟨[], []⟩
    | some choice =>
      let later := emitFrom all n (choice.entity.name :: done) choice.remaining
      ⟨choice.entity :: later.entities, choice.cycleBreak.toList ++ later.cycleBreaks⟩

/-- dependencies first -/
def topological (entities : List Entity) : Emission :=
  emitFrom entities entities.length [] entities

/-! ## Order by fan-out -/

/-- an entity put before the first with more list relations -/
def insertByFanOut (e : Entity) : List Entity → List Entity
  | [] => [e]
  | other :: rest =>
    if other.listRelationCount < e.listRelationCount then other :: insertByFanOut e rest
    else e :: other :: rest

/-- by the number of list relations; entities with as many keep their order -/
def byFanOut (entities : List Entity) : Emission := ⟨entities.foldr insertByFanOut [], []⟩

/-- entities in the order of a strategy -/
def order (strategy : Strategy) (entities : List Entity) : Emission :=
  match strategy with
  | .fanOut => byFanOut entities
  | .topological => topological entities

end Emission

end EntityScaffold

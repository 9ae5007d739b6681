import EntityScaffold.Artifact.Operation
import EntityScaffold.Artifact.Target
import EntityScaffold.Json.Text
import EntityScaffold.Text.Blank

/-!
Data access for an entity: its operations, how many records are found at once, and how a payload
connects a record to those it refers to.
-/

namespace EntityScaffold.Artifact

/-- how a call that finds many records is read -/
structure FindManyPlan where
  idField : String
  /-- the filter takes a list of identifiers as well as one -/
  acceptsMany : Bool
  startParam : String
  endParam : String
deriving DecidableEq, Repr

/-- a list relation whose records are connected by identifier -/
structure Connection where
  field : String
  target : String
  /-- the identifier of the related entity -/
  targetKey : String
deriving DecidableEq, Repr

/-- the data access of an entity -/
structure ServiceModel where
  names : Names
  identifier : Identifier
  findMany : FindManyPlan
  connections : List Connection
deriving DecidableEq, Repr

/-! ## Building -/

/-- the field by which records of a related entity are connected -/
def targetKey (related : Entity) : String :=
  match identifier? related with
  | some id => id.field
  | none => "id"

/-- the connection that a relation field makes, if it holds a list of entities -/
def connection? (s : Schema) (e : Entity) (f : Field) : Build (Option Connection) := do
  match ← target s e f with
  | .entity related =>
    .ok (if f.isList then some ⟨f.name, related.name, targetKey related⟩ else none)
  | .enum _ => .ok none

/-- the data access of an entity -/
def service (s : Schema) (e : Entity) : Build ServiceModel := do
  let names ← namesOf e.name
  let identifier ← requireIdentifier e
  let connections ← e.relationFields.mapM (connection? s e)
  .ok {
    names, identifier
    findMany := ⟨identifier.field, true, "_start", "_end"⟩
    connections := connections.filterMap id }

def ServiceModel.operations (m : ServiceModel) : List (Operation × String) :=
  Operation.all.map fun op => (op, op.functionName m.names)

/-! ## Payloads -/

/-- identifiers as records to connect to -/
def connectByKey (key : String) (ids : List Json) : Json :=
  .object [("connect", .array (ids.map fun id => .object [(key, id)]))]

/-- the members of a payload with one list relation in connected form -/
def Connection.connect (members : List (String × Json)) (c : Connection) : List (String × Json) :=
  match Json.lookup? c.field members with
  | some (.array ids) => Json.replaceMember c.field (connectByKey c.targetKey ids) members
  | _ => members

/-- the payload with its list relations in connected form -/
def ServiceModel.connectPayload (m : ServiceModel) (payload : Json) : Json :=
  match payload with
  | .object members => .object (m.connections.foldl Connection.connect members)
  | other => other

/-! ## Finding many -/

/-- the identifiers asked for -/
inductive IdFilter
  | one (id : Json)
  | many (ids : List Json)
deriving Repr

/-- a list asks for many, anything else for one -/
def IdFilter.ofValue : Json → IdFilter
  | .array ids => .many ids
  | id => .one id

/-- a bound that is no natural number below `2^64` -/
structure InvalidBound where
  param : String
  value : Json
deriving Repr

/-- the fault in words; the value is shown in its compact form -/
def InvalidBound.message (e : InvalidBound) : String :=
  "`" ++ e.param ++ "` must be a non-negative integer, got " ++ e.value.compact

/-- what a call that finds many records asks for -/
structure FindManyArgs where
  ids : Option IdFilter
  start : Option Nat
  stop : Option Nat
deriving Repr

/-- how many records are left out before the first, and how many follow at most -/
structure Window where
  skip : Nat
  take : Option Nat
deriving DecidableEq, Repr

/-- bounds are below this: they fill one word of 64 bits at most -/
def boundLimit : Nat := UInt64.size

/-- the number that ASCII digits write -/
def digitsValue (digits : List Char) : Nat :=
  digits.foldl (fun n c => 10 * n + (c.toNat - '0'.toNat)) 0

/-- the number a text writes: digits, with at most one plus sign before them and blanks around -/
def textBound? (text : List Char) : Option Nat :=
  let trimmed := Text.trim text
  let digits := (['+'].isPrefixOf? trimmed).getD trimmed
  if digits ≠ [] && digits.all Char.isDigit && digitsValue digits < boundLimit then
    some (digitsValue digits)
  else none

/-- the number a value stands for as a bound -/
def valueBound? : Json → Option Nat
  | .number (.integer n) => if 0 ≤ n && n < boundLimit then some n.toNat else none
  | .string s => textBound? s.toList
  | _ => none

def bound (params : List (String × Json)) (param : String) : Except InvalidBound (Option Nat) :=
  match Json.lookup? param params with
  | none => .ok none
  | some value =>
    match valueBound? value with
    | some n => .ok (some n)
    | none => .error ⟨param, value⟩

/-- the identifiers that the parameters ask for; a list only where many are accepted -/
def FindManyPlan.ids? (p : FindManyPlan) (params : List (String × Json)) : Option IdFilter :=
  match (Json.lookup? p.idField params).map IdFilter.ofValue with
  | some (.many ids) => if p.acceptsMany then some (.many ids) else none
  | other => other

def FindManyPlan.args (p : FindManyPlan) (params : List (String × Json)) :
    Except InvalidBound FindManyArgs := do
  let start ← bound params p.startParam
  let stop ← bound params p.endParam
  .ok ⟨p.ids? params, start, stop⟩

/-- the window between the bounds; none when there are no bounds -/
def FindManyArgs.window? (a : FindManyArgs) : Option Window :=
  match a.start, a.stop with
  | none, none => none
  | some start, none => some ⟨start, none⟩
  | none, some stop => some ⟨0, some stop⟩
  | some start, some stop => some ⟨start, some (stop - start)⟩

end EntityScaffold.Artifact

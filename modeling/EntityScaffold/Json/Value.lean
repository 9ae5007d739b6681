import EntityScaffold.Json.Decimal

/-!
JSON values. The members of an object are kept in the order in which they are written. A value that
came from outside is kept in sorted form: at every level the keys ascend and none occurs twice.
-/

namespace EntityScaffold

namespace Json

/-- a number; one written with a point or an exponent is never an integer -/
inductive Number
  | integer (n : Int)
  | decimal (d : Decimal)
deriving DecidableEq, Repr

end Json

inductive Json
  | null
  | bool (b : Bool)
  | number (n : Json.Number)
  | string (s : String)
  | array (items : List Json)
  | object (members : List (String × Json))
deriving Repr

namespace Json

def int (n : Int) : Json := .number (.integer n)

/-- a natural number -/
def nat (n : Nat) : Json := .int n

def optional (s : Option String) : Json :=
  match s with
  | some s => .string s
  | none => .null

def strings (texts : List String) : Json := .array (texts.map .string)

/-! ## Members of objects -/

def lookup? (key : String) (members : List (String × Json)) : Option Json :=
  (members.find? (·.1 = key)).map (·.2)

/-- the members with a new value for a key that is among them -/
def replaceMember (key : String) (value : Json) (members : List (String × Json)) :
    List (String × Json) :=
  members.map fun m => if m.1 = key then (key, value) else m

/-- a member put at its place among members with ascending keys; a member already there stays -/
def insertMember (key : String) (value : Json) : List (String × Json) → List (String × Json)
  | [] => [(key, value)]
  | m :: rest =>
    if key < m.1 then (key, value) :: m :: rest
    else if key = m.1 then m :: rest
    else m :: insertMember key value rest

/-! ## Sorted form -/

mutual

/-- the value with the keys of every object in ascending order; of several members with one key the
last counts -/
def sorted : Json → Json
  | .array items => .array (sortedItems items)
  | .object members => .object (sortedMembers members)
  | other => other

def sortedItems : List Json → List Json
  | [] => []
  | item :: rest => sorted item :: sortedItems rest

def sortedMembers : List (String × Json) → List (String × Json)
  | [] => []
  | (key, value) :: rest => insertMember key (sorted value) (sortedMembers rest)

end

end Json

end EntityScaffold

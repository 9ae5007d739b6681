import EntityScaffold.Artifact.Operation
import EntityScaffold.Artifact.Target

/-!
HTTP endpoints of an entity: a route for the collection of its records and a route for one record. A
handler serves one operation for the methods it accepts.
-/

namespace EntityScaffold.Artifact

inductive Method
  | get
  | post
  | put
  | patch
  | delete
deriving DecidableEq, Repr

namespace Method

def all : List Method := [.get, .post, .put, .patch, .delete]

/-- the method as written in a request -/
def name : Method → String
  | .get => "GET"
  | .post => "POST"
  | .put => "PUT"
  | .patch => "PATCH"
  | .delete => "DELETE"

/-- the method of a name, in any mixture of upper and lower case -/
def ofName? (name : String) : Option Method :=
  all.find? fun m => m.name.toList = name.toList.map Char.toUpper

end Method

inductive RouteKind
  | collection
  | item
deriving DecidableEq, Repr

structure Handler where
  operation : Operation
  methods : List Method
  /-- the function called -/
  function : String
  /-- the validator applied to the request -/
  validator : String
  status : Nat
deriving DecidableEq, Repr

structure Route where
  kind : RouteKind
  path : String
  handlers : List Handler
deriving DecidableEq, Repr

structure EndpointModel where
  names : Names
  collection : Route
  item : Route
deriving DecidableEq, Repr

def handler (names : Names) (operation : Operation) (methods : List Method) (validator : String)
    (status : Nat) : Handler :=
  ⟨operation, methods, operation.functionName names, validator, status⟩

def collectionRoute (names : Names) : Route where
  kind := .collection
  path := "/api/" ++ names.resource
  handlers := [
    handler names .create [.post] names.bodyValidator 201,
    handler names .findMany [.get] names.bodyValidator 200]

def itemRoute (names : Names) (idField : String) : Route where
  kind := .item
  path := "/api/" ++ names.resource ++ "/[" ++ idField ++ "]"
  handlers := [
    handler names .findOne [.get] names.queryValidator 200,
    handler names .update [.put, .patch] names.bodyValidator 200,
    handler names .delete [.delete] names.queryValidator 200]

def endpoint (e : Entity) : Build EndpointModel := do
  let names ← namesOf e.name
  let identifier ← requireIdentifier e
  .ok ⟨names, collectionRoute names, itemRoute names identifier.field⟩

def EndpointModel.route (m : EndpointModel) : RouteKind → Route
  | .collection => m.collection
  | .item => m.item

def EndpointModel.dispatch? (m : EndpointModel) (kind : RouteKind) (method : String) :
    Option Handler :=
  (Method.ofName? method).bind fun method =>
    (m.route kind).handlers.find? (·.methods.contains method)

end EntityScaffold.Artifact

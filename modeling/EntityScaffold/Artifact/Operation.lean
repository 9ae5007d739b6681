import EntityScaffold.Names

/-!
The five operations on the records of an entity.
-/

namespace EntityScaffold.Artifact

inductive Operation
  | create
  | findOne
  | findMany
  | update
  | delete
deriving DecidableEq, Repr

namespace Operation

def all : List Operation := [.create, .findOne, .findMany, .update, .delete]

/-- the function that carries out the operation, such as `findManyUsers` -/
def functionName (names : Names) : Operation → String
  | .create => "create" ++ names.name
  | .findOne => "find" ++ names.name
  | .findMany => "findMany" ++ names.plural
  | .update => "update" ++ names.name
  | .delete => "delete" ++ names.name

end Operation

end EntityScaffold.Artifact

import EntityScaffold.Text.Plural
import EntityScaffold.Text.Words

/-!
The spellings of an entity's name. Everything generated for an entity is named by one of them: types
and functions, route and resource, file. All are derived from the declared name; they exist when the
name has a plural.
-/

namespace EntityScaffold

/-- the spellings of an entity's name -/
structure Names where
  /-- `BlogPost` -/
  name : String
  /-- `blogPost` -/
  camel : String
  /-- `BlogPosts` -/
  plural : String
  /-- `blogPosts` -/
  camelPlural : String
  /-- `blogposts`, the route and the resource -/
  resource : String
  /-- `blog-post` -/
  fileStem : String
deriving DecidableEq, Repr

/-- the text with its first letter in lower case -/
def lowerFirst (text : String) : String := String.ofList (Text.lowerFirst text.toList)

/-- the text with its first letter in upper case -/
def upperFirst (text : String) : String := String.ofList (Text.upperFirst text.toList)

def pluralName? (name : String) : Option String := (Text.plural name.toList).map String.ofList

/-- the resource of an entity: its plural in lower case -/
def resourceName? (name : String) : Option String :=
  (Text.plural name.toList).map fun plural => String.ofList (Text.lowerText plural)

/-- the spellings of a declared name, if it has a plural -/
def Names.of? (declared : String) : Option Names :=
  let name := Text.upperFirst declared.toList
  (Text.plural name).map fun plural => {
    name := String.ofList name
    camel := String.ofList (Text.lowerFirst name)
    plural := String.ofList plural
    camelPlural := String.ofList (Text.lowerFirst plural)
    resource := String.ofList (Text.lowerText plural)
    fileStem := String.ofList (Text.kebabCase name) }

/-- the validator that accepts an identifier of the entity -/
def idValidatorName (entity : String) : String := lowerFirst entity ++ "IdSchema"

def Names.bodyValidator (n : Names) : String := n.camel ++ "Schema"

def Names.queryValidator (n : Names) : String := n.camel ++ "QuerySchema"

def Names.idValidator (n : Names) : String := idValidatorName n.name

end EntityScaffold

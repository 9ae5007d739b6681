import EntityScaffold.Line.Clause
import EntityScaffold.Line.Literal

/-!
Field lines: name, type, then attributes and at most one relation clause in any order, and a trailing
comment, which reading drops. Attributes with a meaning become properties of the field; the others
are kept as written. The clause may be spread over several tokens and is cut out of the attributes;
it means something only on a field whose type is not a scalar.
-/

namespace EntityScaffold.Line

open Text

/-- a field line that was understood -/
structure FieldLine where
  field : Field
  clause : Option Clause
  /-- attributes without a meaning here, as written -/
  others : List (List Char)
deriving DecidableEq, Repr

/-! ## Cutting out the clause -/

/-- how far the parentheses of a clause have been read -/
structure Extent where
  depth : Int
  /-- some parenthesis was opened -/
  opened : Bool
  quoted : Bool
deriving DecidableEq, Repr

/-- before the first character of a clause -/
def Extent.start : Extent := ⟨0, false, false⟩

/-- one more character of a clause -/
def Extent.next (e : Extent) (c : Char) : Extent :=
  if c = '"' then { e with quoted := !e.quoted }
  else if e.quoted then e
  else if c = '(' then { e with depth := e.depth + 1, opened := true }
  else if c = ')' then { e with depth := e.depth - 1 }
  else e

def startsWithParen (token : List Char) : Bool := token.head? = some '('

/-- the clause may end here, with `rest` the tokens that follow -/
def Extent.isComplete (e : Extent) (rest : List (List Char)) : Bool :=
  e.depth ≤ 0 && !e.quoted && !(!e.opened && rest.head?.any startsWithParen)

/-- tokens split after the end of the clause that they start with; a clause that is never complete
takes them all -/
def splitClauseFrom : Extent → List (List Char) → List (List Char) × List (List Char)
  | _, [] => ([], [])
  | e, token :: rest =>
    let e := token.foldl Extent.next e
    if e.isComplete rest then ([token], rest)
    else
      let (clause, after) := splitClauseFrom e rest
      (token :: clause, after)

def startsClause (token : List Char) : Bool := relationMarker.isPrefixOf token

/-- tokens after the type split into the attributes and the first relation clause, if there is one -/
def splitAttributes : List (List Char) → List (List Char) × Option (List (List Char))
  | [] => ([], none)
  | token :: rest =>
    if startsClause token then
      let (clause, after) := splitClauseFrom .start (token :: rest)
      (after, some clause)
    else
      let (attributes, clause) := splitAttributes rest
      (token :: attributes, clause)

/-! ## Attributes -/

/-- marks the identifier -/
def idAttribute : List Char := "@id".toList

/-- marks a field whose values differ from record to record -/
def uniqueAttribute : List Char := "@unique".toList

/-- marks a field filled with the time of the last change -/
def updatedAttribute : List Char := "@updatedAt".toList

/-- the text that opens a default -/
def defaultOpening : List Char := "@default(".toList

/-- the attribute that gives a field a default -/
def defaultAttribute (argument : List Char) : List Char := defaultOpening ++ argument ++ [')']

/-- the argument of a default; none when the attribute is no default or is not closed -/
def defaultArgument? (attr : List Char) : Option (List Char) :=
  (defaultOpening.isPrefixOf? attr).bind ([')'].isSuffixOf? ·)

/-- the default that fills in the time of creation -/
def createdAttribute : List Char := defaultAttribute "now()".toList

/-- a default whose value a generator makes -/
def isGeneratedDefault (attr : List Char) : Bool :=
  ["autoincrement()", "uuid()", "cuid()"].any (fun g => attr = defaultAttribute g.toList)
    || (defaultOpening ++ "dbgenerated(".toList).isPrefixOf attr

/-- a default whose value is written out -/
def isLiteralDefault (attr : List Char) : Bool :=
  !isGeneratedDefault attr && attr ≠ createdAttribute

/-- an attribute that becomes a property of the field -/
def isKnownAttribute (attr : List Char) : Bool :=
  attr = idAttribute || attr = uniqueAttribute || attr = updatedAttribute
    || defaultOpening.isPrefixOf attr

/-! ## Reading -/

/-- the text is a name: a letter or `_`, then letters, numerals and `_` -/
def isIdentifier : List Char → Bool
  | [] => false
  | c :: rest => (isLetter c || c = '_') && rest.all fun c => isAlphanumeric c || c = '_'

/-- the field that a name, a type and attributes declare, before its relation is known -/
def declaredField (name rawType : List Char) (attributes : List (List Char)) : Field where
  name := String.ofList name
  rawType := String.ofList rawType
  isId := attributes.contains idAttribute
  isUnique := attributes.contains uniqueAttribute
  isCreatedAt := attributes.contains createdAttribute
  isUpdatedAt := attributes.contains updatedAttribute
  generatedBy := ((attributes.find? isGeneratedDefault).bind defaultArgument?).map String.ofList
  default := ((attributes.filter isLiteralDefault).findSome? defaultArgument?).map String.ofList
  link := if (Scalar.ofName? (stripMarkers rawType)).isSome then .none else .implicit

/-- tokens as one text, with a space between them -/
def joinTokens (tokens : List (List Char)) : List Char := List.intercalate [' '] tokens

/-- the field line that tokens make up -/
def fieldOfTokens : List (List Char) → Except LineError FieldLine
  | [] => .error (.invalidName "")
  | name :: rest =>
    if isIdentifier name then
      match rest with
      | [] => .error (.missingType (String.ofList name))
      | rawType :: rest => do
        let (attributes, clauseTokens) := splitAttributes rest
        let field := declaredField name rawType attributes
        let clause ← clauseTokens.mapM fun tokens => readClause (joinTokens tokens)
        .ok {
          field
          clause := if field.isRelation then clause else none
          others := attributes.filter (!isKnownAttribute ·) }
    else .error (.invalidName (String.ofList name))

def readField (line : List Char) : Except LineError FieldLine :=
  match tokens? (codeOf line) with
  | none => .error .unterminatedString
  | some tokens => fieldOfTokens tokens

/-! ## Writing -/

/-- an attribute for a property that holds -/
def flagAttribute (holds : Bool) (attr : List Char) : List (List Char) :=
  if holds then [attr] else []

/-- the default attribute of a value, if there is one -/
def valueAttribute (value : Option String) : List (List Char) :=
  (value.map fun v => defaultAttribute v.toList).toList

/-- the attributes that say what is known of a field, in their fixed order -/
def fieldAttributes (f : Field) : List (List Char) :=
  flagAttribute f.isId idAttribute
    ++ flagAttribute f.isUnique uniqueAttribute
    ++ valueAttribute f.generatedBy
    ++ flagAttribute f.isCreatedAt createdAttribute
    ++ valueAttribute f.default
    ++ flagAttribute f.isUpdatedAt updatedAttribute

/-- all attributes of a field line as written: those of the field, the others, the clause -/
def FieldLine.attributes (l : FieldLine) : List (List Char) :=
  fieldAttributes l.field ++ l.others ++ (l.clause.map Clause.written).toList

end EntityScaffold.Line

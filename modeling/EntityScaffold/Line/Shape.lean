import EntityScaffold.Line.Literal

/-!
The shape of a line. A document is read line by line, and the shape of a line says what it does to the
block around it: a line may open or close a block, declare a field, or do neither. The shape depends
on the line alone.
-/

namespace EntityScaffold.Line

open Text

/-- the kinds of block; only models are read, the others are skipped -/
inductive Keyword
  | model
  | enum
  | datasource
  | generator
  | type
  | view
deriving DecidableEq, Repr

namespace Keyword

def all : List Keyword := [.model, .enum, .datasource, .generator, .type, .view]

def word : Keyword → String
  | .model => "model"
  | .enum => "enum"
  | .datasource => "datasource"
  | .generator => "generator"
  | .type => "type"
  | .view => "view"

def ofWord? (word : List Char) : Option Keyword := all.find? (·.word.toList = word)

theorem ofWord?_word (k : Keyword) : ofWord? k.word.toList = some k := by cases k <;> decide

end Keyword

/-- what a line does -/
inductive Shape
  | blank
  /-- a comment alone -/
  | comment
  /-- an attribute of the whole block, such as `@@index([a, b])` -/
  | directive
  /-- opens a block -/
  | opening (keyword : Keyword) (name : String)
  /-- closes the block -/
  | closing
  /-- an indented line, a field inside a model -/
  | field
  | other
deriving DecidableEq, Repr

/-- the line starts with two spaces or a tab -/
def isIndented (line : List Char) : Bool :=
  [' ', ' '].isPrefixOf line || ['\t'].isPrefixOf line

/-- the block that a line of code opens: a keyword, a name and a brace at the end, which may follow
the name without a space -/
def opening? (code : List Char) : Option (Keyword × String) :=
  match Keyword.ofWord? (firstWord code) with
  | none => none
  | some keyword =>
    let name := trimEndWhile (· = '{') (firstWord (afterFirstWord code))
    if name ≠ [] && ['{'].isSuffixOf code then some (keyword, String.ofList name) else none

/-- the shape of a line -/
def shape (line : List Char) : Shape :=
  let trimmed := trim line
  let code := trimEnd (codeOf trimmed)
  if trimmed = [] then .blank
  else if ['/', '/'].isPrefixOf trimmed then .comment
  else if ['@'].isPrefixOf trimmed then .directive
  else if code = ['}'] then .closing
  else if isIndented line then .field
  else
    match opening? code with
    | some (keyword, name) => .opening keyword name
    | none => .other

end EntityScaffold.Line

import EntityScaffold.Line.FieldLine
import EntityScaffold.Line.Shape
import EntityScaffold.Text.Lines

/-!
Reading a document. Lines are taken one after the other; each acts on the block it stands in. A model
is a draft until its closing brace: only then do its entity and its relations join the schema, and the
relations, numbered from zero within the draft, move behind those already there. A model that is never
closed leaves nothing.

A field line outside every block and a model without a closing brace are structural problems. A
lenient reader collects them; a strict reader stops at the first. A field line inside a model that
cannot be understood, or that repeats a name, stops both.
-/

namespace EntityScaffold.Document

open Text Line

/-! ## Problems and errors -/

/-- a flaw of the structure that a lenient reader can pass over -/
inductive Problem
  | orphanField (line : Nat) (text : String)
  | unclosedEntity (line : Nat) (name : String)
deriving DecidableEq, Repr

def Problem.line : Problem → Nat
  | .orphanField line _ => line
  | .unclosedEntity line _ => line

def Problem.message : Problem → String
  | .orphanField line text =>
    "line " ++ toString line ++ ": field line outside any model: `" ++ text ++ "`"
  | .unclosedEntity line name =>
    "line " ++ toString line ++ ": model `" ++ name ++ "` is never closed"

/-- the reason a document is refused -/
inductive ReadError
  | field (line : Nat) (text : String) (cause : LineError)
  | duplicateField (line : Nat) (entity : String) (name : String)
  | structural (problem : Problem)
deriving DecidableEq, Repr

def ReadError.message : ReadError → String
  | .field line text cause =>
    "line " ++ toString line ++ ": " ++ cause.message ++ ": `" ++ text ++ "`"
  | .duplicateField line entity name =>
    "line " ++ toString line ++ ": duplicate field `" ++ name ++ "` in model `" ++ entity ++ "`"
  | .structural problem => problem.message

/-- a text without the blanks around it, as errors and problems show it -/
def shownText (line : List Char) : String := String.ofList (trim line)

/-! ## The reader -/

/-- a model that is still open, its relations numbered from zero -/
structure Draft where
  entity : Entity
  relations : List Relation
deriving DecidableEq, Repr

/-- the block a line stands in -/
inductive Block
  | outside
  | model (draft : Draft)
  | skipped
deriving DecidableEq, Repr

/-- what has been read so far -/
structure Reader where
  schema : Schema
  problems : List Problem
  block : Block
deriving DecidableEq, Repr

def Reader.start : Reader := ⟨.empty, [], .outside⟩

/-- what a document holds, and the problems passed over -/
structure Outcome where
  schema : Schema
  problems : List Problem
deriving DecidableEq, Repr

/-- the field with its relation moved behind `offset` others -/
def shiftLink (offset : Nat) (f : Field) : Field :=
  match f.link with
  | .bound relation => { f with link := .bound (offset + relation) }
  | _ => f

/-- the schema with a closed model added -/
def commit (s : Schema) (d : Draft) : Schema where
  entities :=
    s.entities ++ [{ d.entity with fields := d.entity.fields.map (shiftLink s.relations.length) }]
  relations := s.relations ++ d.relations
  enums := s.enums

/-- the relation that a field with a clause declares -/
def relationOf (f : Field) (c : Clause) : Relation where
  name := c.name
  target := f.baseType
  field := f.name
  fields := c.fields
  references := c.references
  restrictions := c.restrictions
  multiple := f.isList
  required := f.isRequired

def Draft.add (d : Draft) (l : FieldLine) : Draft :=
  match l.clause with
  | none => { d with entity := { d.entity with fields := d.entity.fields ++ [l.field] } }
  | some clause =>
    { entity :=
        { d.entity with
          fields := d.entity.fields ++ [{ l.field with link := .bound d.relations.length }] }
      relations := d.relations ++ [relationOf l.field clause] }

def Draft.readField (d : Draft) (line : List Char) (number : Nat) : Except ReadError Draft :=
  match Line.readField line with
  | .error cause => .error (.field number (shownText line) cause)
  | .ok l =>
    if (d.entity.field? l.field.name).isSome then
      .error (.duplicateField number d.entity.name l.field.name)
    else .ok (d.add l)

/-- a structural problem: noted, or the end of a strict reading -/
def Reader.note (strict : Bool) (r : Reader) (p : Problem) : Except ReadError Reader :=
  if strict then .error (.structural p) else .ok { r with problems := r.problems ++ [p] }

/-- a model still open here is never closed -/
def Reader.abandon (strict : Bool) (r : Reader) : Except ReadError Reader :=
  match r.block with
  | .model d => r.note strict (.unclosedEntity d.entity.line d.entity.name)
  | _ => .ok r

/-- the block that an opening line starts -/
def openBlock (keyword : Keyword) (name : String) (number : Nat) : Block :=
  if keyword = .model then .model ⟨⟨name, number, []⟩, []⟩ else .skipped

/-- the schema with the enum that an opening line declares -/
def declareEnum (s : Schema) (keyword : Keyword) (name : String) : Schema :=
  if keyword = .enum then { s with enums := s.enums ++ [name] } else s

/-- what one line does -/
def step (strict : Bool) (r : Reader) (numbered : List Char × Nat) : Except ReadError Reader :=
  let (line, number) := numbered
  match shape line with
  | .blank | .comment | .directive => .ok r
  | .opening keyword name => do
    let r ← r.abandon strict
    .ok {
      r with
      schema := declareEnum r.schema keyword name
      block := openBlock keyword name number }
  | .closing =>
    match r.block with
    | .model d => .ok { r with schema := commit r.schema d, block := .outside }
    | _ => .ok { r with block := .outside }
  | .field =>
    match r.block with
    | .model d => do
      let d ← d.readField line number
      .ok { r with block := .model d }
    | .skipped => .ok r
    | .outside => r.note strict (.orphanField number (shownText line))
  | .other =>
    match r.block with
    | .outside => r.note strict (.orphanField number (shownText line))
    | _ => .ok r

/-- what lines do one after the other -/
def run (strict : Bool) (r : Reader) (lines : List (List Char × Nat)) : Except ReadError Reader :=
  lines.foldlM (step strict) r

def finish (strict : Bool) (r : Reader) : Except ReadError Outcome := do
  let r ← r.abandon strict
  .ok ⟨r.schema, r.problems⟩

/-- a document read from its text -/
def read (strict : Bool) (source : String) : Except ReadError Outcome := do
  let r ← run strict .start (numberedLines source.toList)
  finish strict r

end EntityScaffold.Document

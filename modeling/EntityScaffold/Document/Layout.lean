import EntityScaffold.Document.Reading
import EntityScaffold.Grid

/-!
Canonical layout of a document. Each line stays one line at its place. The fields of a model are
written anew in columns, with their attributes in a fixed order; comments and directives inside a
model are indented with them; the lines that open and close a model are written in their plain form.
Every other line is kept, without the blanks at its end. The fields of a model wait until the model
ends, since only then the widths of its columns are known.
-/

namespace EntityScaffold.Document

open Text Line

def indent : List Char := [' ', ' ']

/-- a line inside a model that waits for the end of the model -/
inductive Entry
  /-- a field, in cells -/
  | row (cells : List (List Char))
  /-- a line as it will be written -/
  | verbatim (text : List Char)
deriving DecidableEq, Repr

/-- the cells of an entry that has any -/
def Entry.cells? : Entry → Option (List (List Char))
  | .row cells => some cells
  | .verbatim _ => none

/-- the lines written so far, and the entries of the model that is open -/
structure Formatter where
  written : List (List Char)
  entries : Option (List Entry)
deriving DecidableEq, Repr

def Formatter.start : Formatter := ⟨[], none⟩

/-- an entry at the widths of its columns -/
def layEntry (widths : List Nat) : Entry → List Char
  | .row cells => indent ++ Grid.layRow widths 1 cells
  | .verbatim text => text

/-- the entries of a model, its fields in columns -/
def layEntries (entries : List Entry) : List (List Char) :=
  entries.map (layEntry (Grid.columnWidths (entries.filterMap Entry.cells?)))

def Formatter.lines (f : Formatter) : List (List Char) :=
  f.written ++ layEntries (f.entries.getD [])

/-- a line that opens or closes a block, with the comment that trails `line` -/
def delimiter (text line : List Char) : List Char :=
  match commentOf? (trim line) with
  | some comment => text ++ ' ' :: comment
  | none => text

def fieldCells (line : List Char) : Except LineError (List (List Char)) := do
  let l ← Line.readField line
  .ok [l.field.name.toList, l.field.rawType.toList, joinTokens l.attributes,
    trimEnd ((commentOf? line).getD [])]

def modelLine (name : String) (line : List Char) : List Char :=
  delimiter ("model ".toList ++ name.toList ++ " \x7b".toList) line

def Formatter.write (f : Formatter) (line : List Char) : Formatter :=
  ⟨f.lines ++ [line], none⟩

/-- one more entry in the open model -/
def Formatter.add (f : Formatter) (e : Entry) : Formatter :=
  { f with entries := f.entries.map (· ++ [e]) }

/-- a block opens; a model that was open ends without a brace -/
def Formatter.openBlock (f : Formatter) (keyword : Keyword) (name : String) (line : List Char) :
    Formatter :=
  if keyword = .model then { f.write (modelLine name line) with entries := some [] }
  else f.write (trimEnd line)

/-- how one line is laid out; a line is laid out without its number, and an error would report line 0 -/
def layStep (f : Formatter) (line : List Char) : Except ReadError Formatter :=
  match shape line with
  | .opening keyword name => .ok (f.openBlock keyword name line)
  | s =>
    if f.entries.isNone then .ok (f.write (trimEnd line))
    else
      match s with
      | .closing => .ok (f.write (delimiter ['\x7d'] line))
      | .field =>
        match fieldCells line with
        | .ok cells => .ok (f.add (.row cells))
        | .error cause => .error (.field 0 (shownText line) cause)
      | .blank => .ok (f.add (.verbatim []))
      | .comment | .directive => .ok (f.add (.verbatim (indent ++ trim line)))
      | _ => .ok (f.add (.verbatim (trimEnd line)))

def layLines (f : Formatter) (lines : List (List Char)) : Except ReadError Formatter :=
  lines.foldlM layStep f

/-- the canonical text of a document; a document that cannot be read has none -/
def format (source : String) : Except ReadError String := do
  let _ ← read false source
  let f ← layLines .start (splitLines source.toList)
  .ok (String.ofList (joinLines f.lines))

end EntityScaffold.Document

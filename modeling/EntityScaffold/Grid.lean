import EntityScaffold.Text.Measure

/-!
Texts in columns. Each column is as wide as its widest cell, cells are filled up with spaces, and a
gap stands between columns. A row ends with its last non-empty cell, which is not filled up. How wide a
text is can be told by any measure; it is the display columns that it takes up unless another is given.
-/

namespace EntityScaffold.Grid

open Text

/-- the text filled up with spaces to a width; a wider text stays as it is -/
def pad (text : List Char) (n : Nat) (width : List Char → Nat := displayWidth) : List Char :=
  text ++ List.replicate (n - width text) ' '

/-- the widths of columns once a further row is in view -/
def widen (width : List Char → Nat) : List Nat → List (List Char) → List Nat
  | widths, [] => widths
  | [], cell :: row => width cell :: widen width [] row
  | n :: widths, cell :: row => max n (width cell) :: widen width widths row

/-- the width of the widest cell of each column -/
def columnWidths (rows : List (List (List Char))) (width : List Char → Nat := displayWidth) : List Nat :=
  rows.foldl (widen width) []

/-- the row without the empty cells at its end -/
def trimCells : List (List Char) → List (List Char)
  | [] => []
  | cell :: row =>
    match trimCells row with
    | [] => if cell = [] then [] else [cell]
    | kept => cell :: kept

/-- cells at their widths, a gap between them; the last as it is -/
def layCells (width : List Char → Nat) (gap : Nat) : List Nat → List (List Char) → List Char
  | _, [] => []
  | _, [cell] => cell
  | widths, cell :: next :: row =>
    pad cell (widths.headD 0) width ++ List.replicate gap ' ' ++ layCells width gap widths.tail (next :: row)

/-- one row laid out at the widths of its columns -/
def layRow (widths : List Nat) (gap : Nat) (row : List (List Char)) (width : List Char → Nat := displayWidth) :
    List Char :=
  layCells width gap widths (trimCells row)

/-- rows laid out in columns -/
def align (rows : List (List (List Char))) (gap : Nat) (width : List Char → Nat := displayWidth) :
    List (List Char) :=
  rows.map fun row => layRow (columnWidths rows width) gap row width

structure Table where
  header : List (List Char)
  rows : List (List (List Char))
deriving DecidableEq, Repr

def Table.push (t : Table) (row : List (List Char)) : Table := { t with rows := t.rows ++ [row] }

/-- a dash for each column of width -/
def rule (widths : List Nat) : List (List Char) := widths.map (List.replicate · '-')

/-- the table as text: the header, a rule under it, the rows -/
def Table.render (t : Table) : List Char :=
  let widths := columnWidths (t.header :: t.rows)
  List.intercalate ['\n'] (align (t.header :: rule widths :: t.rows) 2) ++ ['\n']

end EntityScaffold.Grid

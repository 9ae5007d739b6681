import EntityScaffold.Proofs.FieldOffset
import EntityScaffold.Proofs.Row

/-!
A document read and laid out by offsets. Every line is cut up at its offsets (`cutRead_eq`). The cells of a table are
looked up by their places: a row is cut behind its last cell that is not empty, and the width of a column is looked up
by the number of the column. There is one for every cell of the table, since each row is in view when the widths are
taken (`length_columnWidths`), so every document is laid out (`cutFormat_eq`).
-/

namespace EntityScaffold

namespace Grid

open Text

/-! ## Tables -/

/-- the place behind the last cell that is not empty -/
def lastPlace : List (List Char) → Nat
  | [] => 0
  | cell :: row =>
    match lastPlace row with
    | 0 => if cell = [] then 0 else 1
    | last + 1 => last + 2

/-- cells from column `i` on at the widths that are looked up for their columns -/
def layCellsAt (width : List Char → Nat) (widths : List Nat) (gap : Nat) : Nat → List (List Char) → Option (List Char)
  | _, [] => some []
  | _, [cell] => some cell
  | i, cell :: next :: row => do
    let n ← widths[i]?
    let others ← layCellsAt width widths gap (i + 1) (next :: row)
    some (pad cell n width ++ List.replicate gap ' ' ++ others)

/-- one row, cut behind its last cell that is not empty -/
def layRowAt (widths : List Nat) (gap : Nat) (row : List (List Char)) (width : List Char → Nat := displayWidth) :
    Option (List Char) := do
  let cells ← takePlaces (lastPlace row) row
  layCellsAt width widths gap 0 cells

theorem length_trimCells (row : List (List Char)) : (trimCells row).length = lastPlace row := by
  induction row with
  | nil => rfl
  | cons cell row ih =>
    rw [lastPlace, ← ih, trimCells]
    cases trimCells row with
    | nil => by_cases hcell : cell = [] <;> simp [hcell]
    | cons kept others => rfl

theorem takePlaces_lastPlace (row : List (List Char)) : takePlaces (lastPlace row) row = some (trimCells row) := by
  obtain ⟨more, hrow, -⟩ := trimCells_append row
  rw [← length_trimCells]
  nth_rewrite 2 [hrow]
  exact takePlaces_append _ _

section Widths

variable {width : List Char → Nat} {rows : List (List (List Char))} {row : List (List Char)} {widths : List Nat}

theorem layCellsAt_eq {cells : List (List Char)} {i : Nat} (gap : Nat) (h : i + cells.length ≤ widths.length) :
    layCellsAt width widths gap i cells = some (layCells width gap (widths.drop i) cells) := by
  induction cells generalizing i with
  | nil => rfl
  | cons cell row ih =>
    cases row with
    | nil => rfl
    | cons next row =>
      rw [List.length_cons] at h
      have hlt : i < widths.length := by omega
      have hrest := @ih (i + 1) (by omega)
      rw [layCellsAt, hrest, List.getElem?_eq_getElem hlt, layCells, List.drop_eq_getElem_cons hlt]
      rfl

/-- a row in view has a width for each of its cells, and no width is lost -/
theorem length_widen (widths : List Nat) (row : List (List Char)) :
    (widen width widths row).length = max widths.length row.length := by
  induction row generalizing widths with
  | nil => simp [widen]
  | cons cell row ih =>
    cases widths with
    | nil => simp [widen, ih]
    | cons n widths => simp [widen, ih]

theorem length_foldl_widen (h : row ∈ rows ∨ row.length ≤ widths.length) :
    row.length ≤ (rows.foldl (widen width) widths).length := by
  induction rows generalizing widths with
  | nil => exact h.resolve_left List.not_mem_nil
  | cons first rows ih =>
    refine ih ?_
    rw [length_widen]
    rcases h with hmem | hle
    · rcases List.mem_cons.1 hmem with rfl | hmem
      · exact Or.inr (Nat.le_max_right _ _)
      · exact Or.inl hmem
    · exact Or.inr (Nat.le_trans hle (Nat.le_max_left _ _))

/-- there is a width for every cell of a table -/
theorem length_columnWidths (h : row ∈ rows) : row.length ≤ (columnWidths rows width).length :=
  length_foldl_widen (Or.inl h)

/-- **Every row of a table is laid out.** -/
theorem layRowAt_eq (h : row ∈ rows) (gap : Nat) :
    layRowAt (columnWidths rows width) gap row width = some (layRow (columnWidths rows width) gap row width) := by
  have htake := takePlaces_lastPlace row
  have hle : (trimCells row).length ≤ (columnWidths rows width).length := by
    unfold takePlaces at htake
    split at htake
    · rw [← Option.some.inj htake, List.length_take]
      exact Nat.le_trans (Nat.min_le_right _ _) (length_columnWidths h)
    · cases htake
  unfold layRowAt layRow
  rw [htake, Option.bind_eq_bind, Option.bind_some, layCellsAt_eq gap (by rwa [Nat.zero_add]), List.drop_zero]

end Widths

end Grid

namespace Document

open Text Line

/-! ## Reading -/

/-- the draft after a field line that is cut up -/
def Draft.cutField (d : Draft) (line : List Char) (number : Nat) : Cut ReadError Draft := do
  let l ← (Line.cutField line).mapError (.field number (shownText line))
  if (d.entity.field? l.field.name).isSome then throw (.duplicateField number d.entity.name l.field.name)
  else pure (d.add l)

/-- what a line does, its shape and its field cut out of it; nothing else is looked up in a line -/
def cutStep (strict : Bool) (r : Reader) (numbered : List Char × Nat) : Cut ReadError Reader := do
  match ← liftM (cutShape numbered.1), r.block with
  | .field, .model d => do
    let d ← d.cutField numbered.1 numbered.2
    pure { r with block := .model d }
  | _, _ => liftM (step strict r numbered)

/-- a document read from its text, every line cut up -/
def cutRead (strict : Bool) (source : String) : Cut ReadError Outcome := do
  let r ← (numberedLines source.toList).foldlM (cutStep strict) .start
  liftM (finish strict r)

theorem Draft.cutField_eq (d : Draft) (line : List Char) (number : Nat) :
    d.cutField line number = Cut.done (d.readField line number) := by
  unfold Draft.cutField Draft.readField
  rw [Line.cutField_eq, Cut.mapError_done]
  cases Line.readField line with
  | error cause => rfl
  | ok l =>
    simp only [Except.mapError, Cut.done_ok_bind]
    split <;> rfl

theorem cutStep_eq (strict : Bool) (r : Reader) (numbered : List Char × Nat) :
    cutStep strict r numbered = Cut.done (step strict r numbered) := by
  unfold cutStep
  rw [cutShape_eq, Cut.lift_some, Cut.done_ok_bind]
  split
  · next d hshape hblock =>
    simp only [step, hshape, hblock, Draft.cutField_eq]
    cases d.readField numbered.1 numbered.2 <;> rfl
  · rfl

/-- **Every document is read** with cuts that have an outcome. -/
theorem cutRead_eq (strict : Bool) (source : String) : cutRead strict source = Cut.done (read strict source) := by
  unfold cutRead read run
  rw [Cut.foldlM_done (cutStep_eq strict)]
  exact Cut.done_bind _ _

/-! ## Layout -/

/-- a line that opens or closes a block, with the comment cut off `line` -/
def cutDelimiter (text line : List Char) : Option (List Char) := do
  match ← cutComment (trim line) with
  | (_, some comment) => some (text ++ ' ' :: comment)
  | (_, none) => some text

def cutFieldCells (line : List Char) : Cut LineError (List (List Char)) := do
  let l ← Line.cutField line
  let (_, comment) ← liftM (cutComment line)
  pure [l.field.name.toList, l.field.rawType.toList, joinTokens l.attributes, trimEnd (comment.getD [])]

/-- an entry at the widths looked up for its columns -/
def layEntryAt (widths : List Nat) : Entry → Option (List Char)
  | .row cells => (Grid.layRowAt widths 1 cells).map (indent ++ ·)
  | .verbatim text => some text

/-- all lines so far, those that wait included -/
def Formatter.cutLines (f : Formatter) : Option (List (List Char)) := do
  let entries := f.entries.getD []
  let lines ← entries.mapM (layEntryAt (Grid.columnWidths (entries.filterMap Entry.cells?)))
  some (f.written ++ lines)

/-- one more line written, outside any model -/
def Formatter.cutWrite (f : Formatter) (line : List Char) : Option Formatter := do
  let lines ← f.cutLines
  some ⟨lines ++ [line], none⟩

/-- a block opens; a model that was open ends without a brace -/
def Formatter.cutOpen (f : Formatter) (keyword : Keyword) (name : String) (line : List Char) : Option Formatter :=
  if keyword = .model then do
    let opening ← cutDelimiter ("model ".toList ++ name.toList ++ " \x7b".toList) line
    let f ← f.cutWrite opening
    some { f with entries := some [] }
  else f.cutWrite (trimEnd line)

/-- how one line is laid out, cut up -/
def cutLayStep (f : Formatter) (line : List Char) : Cut ReadError Formatter := do
  match ← liftM (cutShape line), f.entries with
  | .opening keyword name, _ => liftM (f.cutOpen keyword name line)
  | _, none => liftM (f.cutWrite (trimEnd line))
  | .closing, some _ => do
    let text ← liftM (cutDelimiter ['\x7d'] line)
    liftM (f.cutWrite text)
  | .field, some _ => do
    let cells ← (cutFieldCells line).mapError (.field 0 (shownText line))
    pure (f.add (.row cells))
  | .blank, some _ => pure (f.add (.verbatim []))
  | .comment, some _ | .directive, some _ => pure (f.add (.verbatim (indent ++ trim line)))
  | .other, some _ => pure (f.add (.verbatim (trimEnd line)))

/-- the canonical text of a document, every line cut up -/
def cutFormat (source : String) : Cut ReadError String := do
  let _ ← cutRead false source
  let f ← (splitLines source.toList).foldlM cutLayStep .start
  let lines ← liftM f.cutLines
  pure (String.ofList (joinLines lines))

theorem cutDelimiter_eq (text line : List Char) : cutDelimiter text line = some (delimiter text line) := by
  unfold cutDelimiter delimiter commentOf?
  rw [cutComment_eq, Option.bind_eq_bind, Option.bind_some]
  obtain ⟨code, comment⟩ := splitComment (trim line)
  cases comment <;> rfl

theorem cutFieldCells_eq (line : List Char) : cutFieldCells line = Cut.done (fieldCells line) := by
  unfold cutFieldCells fieldCells
  rw [Line.cutField_eq]
  cases Line.readField line with
  | error cause => rfl
  | ok l =>
    simp only [Cut.done_ok_bind, cutComment_eq, Cut.lift_some]
    rfl

/-- the rows of a model are rows of its table -/
theorem cutLines_eq (f : Formatter) : f.cutLines = some f.lines := by
  unfold Formatter.cutLines Formatter.lines layEntries
  have hentry : ∀ e ∈ f.entries.getD [],
      layEntryAt (Grid.columnWidths ((f.entries.getD []).filterMap Entry.cells?)) e =
        some (layEntry (Grid.columnWidths ((f.entries.getD []).filterMap Entry.cells?)) e) := by
    intro e he
    cases e with
    | row cells =>
      have hrow : cells ∈ (f.entries.getD []).filterMap Entry.cells? := List.mem_filterMap.2 ⟨_, he, rfl⟩
      rw [layEntryAt, Grid.layRowAt_eq hrow]
      rfl
    | verbatim text => rfl
  simp only [mapM_some hentry]
  rfl

theorem cutWrite_eq (f : Formatter) (line : List Char) : f.cutWrite line = some (f.write line) := by
  unfold Formatter.cutWrite Formatter.write
  rw [cutLines_eq]
  rfl

theorem cutOpen_eq (f : Formatter) (keyword : Keyword) (name : String) (line : List Char) :
    f.cutOpen keyword name line = some (f.openBlock keyword name line) := by
  unfold Formatter.cutOpen Formatter.openBlock modelLine
  rw [cutDelimiter_eq, cutWrite_eq]
  split
  · simp only [Option.bind_eq_bind, Option.bind_some, cutWrite_eq]
  · rfl

theorem cutLayStep_eq (f : Formatter) (line : List Char) : cutLayStep f line = Cut.done (layStep f line) := by
  unfold cutLayStep layStep
  rw [cutShape_eq, Cut.lift_some, Cut.done_ok_bind]
  cases hshape : shape line <;> cases hentries : f.entries <;>
    simp [cutOpen_eq, cutWrite_eq, cutDelimiter_eq, cutFieldCells_eq]
  cases fieldCells line <;> rfl

/-- **Every document is laid out** with cuts that have an outcome. -/
theorem cutFormat_eq (source : String) : cutFormat source = Cut.done (format source) := by
  unfold cutFormat format layLines
  simp only [cutRead_eq, Cut.foldlM_done cutLayStep_eq, cutLines_eq, Cut.lift_some, Cut.done_ok_bind, Cut.pure_eq]
  cases read false source with
  | error e => rfl
  | ok outcome =>
    rw [Cut.done_ok_bind, Cut.done_bind]
    rfl

end Document

end EntityScaffold

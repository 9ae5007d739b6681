import EntityScaffold.Proofs.Row
import EntityScaffold.Proofs.Width
import Mathlib.Algebra.BigOperators.Group.Finset.Basic
import Mathlib.Data.List.Forall2
import Mathlib.Order.Bounds.Basic

/-!
Columns of a grid line up, however the width of a text is measured, if only widths add up over a space (`AddsUp`). Each
column is as wide as its widest cell (`columnWidth_isGreatest`), so a cell that is filled up ends where its column does,
and the next one begins a gap further on (`layCells_cell`). A row is laid out up to its last cell that is not empty
(`trimCells_append`). Main statement: `align_linesUp`, for the display columns that a text takes up: whatever the rows
hold, and however many cells, the cells of one column begin in the same display column in all lines.
-/

namespace EntityScaffold.Grid

open Text

/-! ## Measures -/

/-- widths add up over a space: a text, some spaces and another text are as wide as all three together -/
structure AddsUp (width : List Char → Nat) : Prop where
  nil : width [] = 0
  spaced : ∀ before rest {n : Nat}, 1 ≤ n →
    width (before ++ (List.replicate n ' ' ++ rest)) = width before + n + width rest

/-- **Display columns add up** over a space. -/
theorem displayWidth_addsUp : AddsUp displayWidth := ⟨rfl, displayWidth_spaced⟩

/-! ## Widths of columns -/

/-- the widths of the cells that a column has -/
def cellWidths (width : List Char → Nat) (rows : List (List (List Char))) (j : Nat) : Set Nat :=
  {w | ∃ row ∈ rows, ∃ cell, row[j]? = some cell ∧ width cell = w}

/-- the width of a column -/
def columnWidth (width : List Char → Nat) (rows : List (List (List Char))) (j : Nat) : Nat :=
  (columnWidths rows width).getD j 0

section Columns

variable {width : List Char → Nat} (hempty : width [] = 0)
include hempty

theorem getD_widen (widths : List Nat) (row : List (List Char)) (j : Nat) :
    (widen width widths row).getD j 0 = max (widths.getD j 0) (width (row.getD j [])) := by
  induction row generalizing widths j with
  | nil => simp [widen, hempty]
  | cons cell row ih =>
    cases widths with
    | nil =>
      cases j with
      | zero => simp [widen]
      | succ j => simpa [widen] using ih [] j
    | cons n widths =>
      cases j with
      | zero => simp [widen]
      | succ j => simpa [widen] using ih widths j

/-- no cell is wider than its column, and some cell is as wide, or the column is as wide as it was before -/
theorem getD_foldl_widen (rows : List (List (List Char))) (widths : List Nat) (j : Nat) :
    widths.getD j 0 ≤ (rows.foldl (widen width) widths).getD j 0 ∧
      (∀ row ∈ rows, width (row.getD j []) ≤ (rows.foldl (widen width) widths).getD j 0) ∧
      ((rows.foldl (widen width) widths).getD j 0 = widths.getD j 0 ∨
        ∃ row ∈ rows, (rows.foldl (widen width) widths).getD j 0 = width (row.getD j [])) := by
  induction rows generalizing widths with
  | nil => exact ⟨Nat.le_refl _, nofun, Or.inl rfl⟩
  | cons row rows ih =>
    obtain ⟨hbefore, hcells, hsome⟩ := ih (widen width widths row)
    rw [getD_widen hempty] at hbefore hsome
    rw [List.foldl_cons]
    refine ⟨Nat.le_trans (Nat.le_max_left _ _) hbefore, fun other hother => ?_, ?_⟩
    · rcases List.mem_cons.1 hother with rfl | hother
      · exact Nat.le_trans (Nat.le_max_right _ _) hbefore
      · exact hcells other hother
    · rcases hsome with hsame | ⟨other, hother, hsame⟩
      · rcases Nat.le_total (width (row.getD j [])) (widths.getD j 0) with hle | hle
        · exact Or.inl (hsame.trans (Nat.max_eq_left hle))
        · exact Or.inr ⟨row, List.mem_cons_self, hsame.trans (Nat.max_eq_right hle)⟩
      · exact Or.inr ⟨other, List.mem_cons_of_mem _ hother, hsame⟩

theorem width_le_columnWidth {rows : List (List (List Char))} {row : List (List Char)} (hrow : row ∈ rows) {j : Nat}
    {cell : List Char} (hcell : row[j]? = some cell) : width cell ≤ columnWidth width rows j := by
  have hle := (getD_foldl_widen hempty rows [] j).2.1 row hrow
  rwa [List.getD_eq_getElem?_getD, hcell, Option.getD_some] at hle

/-- **A column is as wide as its widest cell.** -/
theorem columnWidth_isGreatest {rows : List (List (List Char))} {j : Nat} (h : ∃ row ∈ rows, j < row.length) :
    IsGreatest (cellWidths width rows j) (columnWidth width rows j) := by
  refine ⟨?_, ?_⟩
  · rcases Nat.eq_zero_or_pos (columnWidth width rows j) with hzero | hpos
    · -- a column without width has cells all the same
      obtain ⟨row, hrow, hj⟩ := h
      have hcell := List.getElem?_eq_getElem hj
      have hle := width_le_columnWidth hempty hrow hcell
      exact ⟨row, hrow, row[j], hcell, by omega⟩
    · rcases (getD_foldl_widen hempty rows [] j).2.2 with hnone | ⟨row, hrow, hsame⟩
      · exact absurd hnone hpos.ne'
      · have hwidest : columnWidth width rows j = width (row[j]?.getD []) := by
          rw [← List.getD_eq_getElem?_getD]
          exact hsame
        cases hcell : row[j]? with
        | some cell => exact ⟨row, hrow, cell, hcell, by rw [hwidest, hcell]; rfl⟩
        | none =>
          rw [hcell, Option.getD_none, hempty] at hwidest
          exact absurd hwidest hpos.ne'
  · rintro w ⟨row, hrow, cell, hcell, rfl⟩
    exact width_le_columnWidth hempty hrow hcell

end Columns

/-! ## Cells in a line -/

/-- cells in their order, with spaces behind each of them -/
inductive SpacedCells : List (List Char) → List Char → Prop
  | nil : SpacedCells [] []
  | cons (cell : List Char) (n : Nat) {cells : List (List Char)} {text : List Char} (h : SpacedCells cells text) :
      SpacedCells (cell :: cells) (cell ++ (List.replicate n ' ' ++ text))

/-- the rest of a line begins at a width: the text before it is as wide, and shares nothing with it -/
structure BeginsAt (width : List Char → Nat) (column : Nat) (before rest : List Char) : Prop where
  reached : width before = column
  apart : width (before ++ rest) = column + width rest

section Measured

variable {width : List Char → Nat} (hwidth : AddsUp width)
include hwidth

theorem beginsAt_start (rest : List Char) : BeginsAt width 0 [] rest where
  reached := hwidth.nil
  apart := (Nat.zero_add _).symm

theorem BeginsAt.behind {column : Nat} {before rest : List Char} (h : BeginsAt width column before rest)
    (cell : List Char) {n : Nat} (hn : 1 ≤ n) :
    BeginsAt width (width cell + n + column) (cell ++ (List.replicate n ' ' ++ before)) rest where
  reached := by rw [hwidth.spaced _ _ hn, h.reached]
  apart := by
    rw [List.append_assoc, List.append_assoc, hwidth.spaced _ _ hn, h.apart]
    exact (Nat.add_assoc _ _ _).symm

end Measured

/-- the width at which a column of cells begins: behind the widths of those before it and a gap after each -/
def startOf (width : Nat → Nat) (gap i : Nat) : Nat := ∑ j ∈ Finset.range i, (width j + gap)

theorem startOf_succ (width : Nat → Nat) (gap i : Nat) :
    startOf width gap (i + 1) = width 0 + gap + startOf (fun j => width (j + 1)) gap i := by
  rw [startOf, Finset.sum_range_succ', Nat.add_comm]
  rfl

theorem pad_gap {width : List Char → Nat} {cell : List Char} {n : Nat} (gap : Nat) (rest : List Char) :
    pad cell n width ++ List.replicate gap ' ' ++ rest =
      cell ++ (List.replicate (n - width cell + gap) ' ' ++ rest) := by
  rw [pad, List.replicate_add]
  simp only [List.append_assoc]

/-- the first of several cells is filled up, and the cells behind it are laid out at the widths that remain -/
theorem layCells_cons {width : List Char → Nat} {gap : Nat} {widths : List Nat} {first : List Char}
    {rest : List (List Char)} (h : rest ≠ []) : layCells width gap widths (first :: rest) =
      first ++ (List.replicate (widths.headD 0 - width first + gap) ' ' ++ layCells width gap widths.tail rest) := by
  cases rest with
  | nil => exact absurd rfl h
  | cons next rest => rw [layCells, pad_gap]

theorem getD_tail (widths : List Nat) (j : Nat) : widths.tail.getD j 0 = widths.getD (j + 1) 0 := by
  cases widths <;> rfl

/-- a column after the first begins behind the first cell, what fills it up, and the columns in between -/
theorem startOf_tail {widths : List Nat} {n : Nat} (h : n ≤ widths.headD 0) (gap i : Nat) :
    startOf (widths.getD · 0) gap (i + 1) =
      n + (widths.headD 0 - n + gap) + startOf (widths.tail.getD · 0) gap i := by
  have hhead : widths.getD 0 0 = widths.headD 0 := by cases widths <;> rfl
  rw [startOf_succ]
  simp only [getD_tail, hhead]
  omega

/-- **A cell begins with its column** when no cell before it is wider than its own column. -/
theorem layCells_cell {width : List Char → Nat} (hwidth : AddsUp width) {gap : Nat} (hgap : 1 ≤ gap)
    {widths : List Nat} {cells : List (List Char)}
    (hwide : ∀ j cell, cells[j]? = some cell → width cell ≤ widths.getD j 0) {i : Nat} {cell : List Char}
    (hcell : cells[i]? = some cell) : ∃ before after, layCells width gap widths cells = before ++ (cell ++ after) ∧
      SpacedCells (cells.take i) before ∧ BeginsAt width (startOf (widths.getD · 0) gap i) before (cell ++ after) ∧
      (i + 1 = cells.length → after = []) := by
  induction cells generalizing widths i with
  | nil => cases hcell
  | cons first rest ih =>
    cases i with
    | zero =>
      obtain rfl := Option.some.inj hcell
      rcases eq_or_ne rest [] with rfl | hrest
      · exact ⟨[], [], by simp [layCells], .nil, beginsAt_start hwidth _, fun _ => rfl⟩
      · refine ⟨[], _, layCells_cons hrest, .nil, beginsAt_start hwidth _, fun h => ?_⟩
        exact absurd (List.length_eq_zero_iff.1 (Nat.succ.inj h).symm) hrest
    | succ i =>
      have hrest : rest ≠ [] := by
        rintro rfl
        cases hcell
      have hfirst : width first ≤ widths.headD 0 := by
        have hle := hwide 0 first rfl
        cases widths <;> exact hle
      have hwide' : ∀ j cell, rest[j]? = some cell → width cell ≤ widths.tail.getD j 0 := by
        intro j cell hj
        rw [getD_tail]
        exact hwide (j + 1) cell hj
      obtain ⟨before, after, hline, hbefore, hbegins, hlast⟩ := ih hwide' hcell
      refine ⟨_, after, ?_, .cons first (widths.headD 0 - width first + gap) hbefore, ?_, fun h => ?_⟩
      · rw [layCells_cons hrest, hline]
        simp only [List.append_assoc]
      · rw [startOf_tail hfirst]
        exact hbegins.behind hwidth first (Nat.le_add_left_of_le hgap)
      · exact hlast (Nat.succ.inj h)

/-! ## Rows -/

/-- a line in which the cells of a row begin with their columns -/
structure LinesUp (width : List Char → Nat) (start : Nat → Nat) (row : List (List Char)) (line : List Char) : Prop where
  /-- a cell, unless it is empty as all after it are, begins with its column, behind the cells before it and spaces; the
  last that is not empty ends the line -/
  cells : ∀ i cell, row[i]? = some cell → (∃ later ∈ row.drop i, later ≠ []) →
    ∃ before after, line = before ++ (cell ++ after) ∧ SpacedCells (row.take i) before ∧
      BeginsAt width (start i) before (cell ++ after) ∧ ((∀ later ∈ row.drop (i + 1), later = []) → after = [])
  empty : (∀ cell ∈ row, cell = []) → line = []

/-- where the last cell is not empty, some cell from any place on is not -/
theorem exists_ne_nil_of_getLast? {cells : List (List Char)} (h : cells.getLast? ≠ some []) {i : Nat}
    (hi : i < cells.length) : ∃ last ∈ cells.drop i, last ≠ [] := by
  have hne : cells.drop i ≠ [] := fun hnil => absurd (List.drop_eq_nil_iff.1 hnil) (Nat.not_le.2 hi)
  refine ⟨_, List.getLast_mem hne, fun hempty => h ?_⟩
  rw [List.getLast_drop] at hempty
  rw [List.getLast?_eq_some_getLast (List.ne_nil_of_length_pos (Nat.zero_lt_of_lt hi)), hempty]

/-- a row lines up when its cells are no wider than their columns -/
theorem layRow_linesUp {width : List Char → Nat} (hwidth : AddsUp width) {gap : Nat} (hgap : 1 ≤ gap)
    {widths : List Nat} {row : List (List Char)}
    (hwide : ∀ j cell, row[j]? = some cell → width cell ≤ widths.getD j 0) :
    LinesUp width (startOf (widths.getD · 0) gap) row (layRow widths gap row width) := by
  obtain ⟨more, hrow, hmore, hlast⟩ := trimCells_append row
  unfold layRow
  generalize trimCells row = kept at hrow hlast
  subst hrow
  refine ⟨fun i cell hcell hlater => ?_, fun hempty => ?_⟩
  · have hi : i < kept.length := by
      by_contra hover
      obtain ⟨later, hmem, hne⟩ := hlater
      rw [List.drop_append, List.drop_of_length_le (Nat.le_of_not_lt hover), List.nil_append] at hmem
      exact hne (hmore later (List.mem_of_mem_drop hmem))
    rw [List.getElem?_append_left hi] at hcell
    have hkept : ∀ j cell, kept[j]? = some cell → width cell ≤ widths.getD j 0 := by
      intro j cell hj
      refine hwide j cell ?_
      rw [List.getElem?_append_left (List.getElem?_eq_some_iff.1 hj).1, hj]
    obtain ⟨before, after, hline, hbefore, hbegins, hafter⟩ := layCells_cell hwidth hgap hkept hcell
    refine ⟨before, after, hline, ?_, hbegins, fun hnone => hafter ?_⟩
    · rwa [List.take_append_of_le_length hi.le]
    · by_contra hmiddle
      obtain ⟨last, hmem, hne⟩ := exists_ne_nil_of_getLast? hlast (i := i + 1) (by omega)
      refine hne (hnone last ?_)
      rw [List.drop_append]
      exact List.mem_append_left _ hmem
  · cases kept with
    | nil => rfl
    | cons first rest =>
      obtain ⟨last, hmem, hne⟩ := exists_ne_nil_of_getLast? hlast (Nat.succ_pos _)
      exact absurd (hempty last (List.mem_append_left _ hmem)) hne

/-- each line of a grid lines up with the columns -/
theorem forall₂_linesUp {width : List Char → Nat} (hwidth : AddsUp width) (rows : List (List (List Char))) {gap : Nat}
    (hgap : 1 ≤ gap) :
    List.Forall₂ (LinesUp width (startOf (columnWidth width rows) gap)) rows (align rows gap width) := by
  unfold align
  rw [List.forall₂_map_right_iff, List.forall₂_same]
  intro row hrow
  exact layRow_linesUp hwidth hgap fun j cell hcell => width_le_columnWidth hwidth.nil hrow hcell

/-- **Columns line up.** Every column is as wide as its widest cell. There is one line for each row, in which each cell
up to the last that is not empty begins behind the widths of the columns before it and a gap after each of them, with
nothing before it but the cells before it and spaces; the line ends with the last cell that is not empty, and a row
without such a cell gives an empty line. -/
theorem align_linesUp (rows : List (List (List Char))) {gap : Nat} (hgap : 1 ≤ gap) :
    (∀ j, (∃ row ∈ rows, j < row.length) →
      IsGreatest (cellWidths displayWidth rows j) (columnWidth displayWidth rows j)) ∧
    List.Forall₂ (LinesUp displayWidth (startOf (columnWidth displayWidth rows) gap)) rows (align rows gap) :=
  ⟨fun _ hj => columnWidth_isGreatest displayWidth_addsUp.nil hj, forall₂_linesUp displayWidth_addsUp rows hgap⟩

def raggedRows : List (List (List Char)) :=
  [["id", "Int", "@id"], ["名前", "", "x", ""], [], ["", ""], ["e\u0301a", "String"]].map (·.map String.toList)

/-- rows of different lengths with a wide character and a mark that takes no column: the third column begins in display
column fourteen -/
theorem align_linesUp_ragged : 1 ≤ 2 ∧
    List.Forall₂ (LinesUp displayWidth (startOf (columnWidth displayWidth raggedRows) 2)) raggedRows
      (align raggedRows 2) ∧
    IsGreatest (cellWidths displayWidth raggedRows 1) (columnWidth displayWidth raggedRows 1) ∧
    startOf (columnWidth displayWidth raggedRows) 2 2 = 14 ∧
    align raggedRows 2 =
      ["id    Int     @id", "名前          x", "", "", "e\u0301a    String"].map String.toList := by
  have hlines := align_linesUp raggedRows (by decide : 1 ≤ 2)
  exact ⟨by decide, hlines.2, hlines.1 1 ⟨_, List.mem_cons_self, by decide⟩, by decide +kernel, by decide +kernel⟩

end EntityScaffold.Grid

import EntityScaffold.Proofs.Reading
import EntityScaffold.Proofs.Row

/-!
The formatter line by line. Formatting collects the entries of a model and lays them out when the model ends;
looking ahead instead, each line is laid out at its place, at the widths of the entries that follow the opening of
its model (`laid`). The two agree (`layLines_laid`), so a document that is read can be formatted (`format_laid`), and
its canonical lines can be told apart again (`splitLines_canonical`).
-/

namespace EntityScaffold.Document

open Text Line

/-! ## Lines and blocks -/

/-- the line neither opens nor closes a block -/
def StaysInBlock (line : List Char) : Prop := shape line ≠ .closing ∧ ∀ k name, shape line ≠ .opening k name

theorem opens_or_closes_or_stays (line : List Char) :
    (∃ k name, shape line = .opening k name) ∨ shape line = .closing ∨ StaysInBlock line := by
  by_cases hopen : ∃ k name, shape line = .opening k name
  · exact Or.inl hopen
  by_cases hclose : shape line = .closing
  · exact Or.inr (Or.inl hclose)
  · exact Or.inr (Or.inr ⟨hclose, fun k name h => hopen ⟨k, name, h⟩⟩)

/-- the lines after `line` stand inside a model -/
def insideAfter (inside : Bool) (line : List Char) : Bool :=
  match shape line with
  | .opening keyword _ => keyword = .model
  | .closing => false
  | _ => inside

/-- the field lines that stand inside models, `inside` telling whether the first line does -/
def modelFields (inside : Bool) : List (List Char) → List (List Char)
  | [] => []
  | line :: rest =>
    if inside && shape line = .field then line :: modelFields (insideAfter inside line) rest
    else modelFields (insideAfter inside line) rest

/-- the entry that a line inside a model waits as -/
def entryOf (line : List Char) : Entry :=
  match shape line with
  | .field =>
    match readField line with
    | .ok l => .row (rowCells l (trailing line))
    | .error _ => .verbatim (trimEnd line)
  | .blank => .verbatim []
  | .comment | .directive => .verbatim (indent ++ trim line)
  | _ => .verbatim (trimEnd line)

/-- the entries that come before the next line that opens or closes a block -/
def ahead : List (List Char) → List Entry
  | [] => []
  | line :: rest =>
    match shape line with
    | .opening _ _ | .closing => []
    | _ => entryOf line :: ahead rest

def widthsOf (entries : List Entry) : List Nat := Grid.columnWidths (entries.filterMap Entry.cells?)

/-- the columns after `line`, with `rest` the lines that follow; none outside models -/
def columnsAfter (columns : Option (List Nat)) (line : List Char) (rest : List (List Char)) : Option (List Nat) :=
  match shape line with
  | .opening keyword _ => if keyword = .model then some (widthsOf (ahead rest)) else none
  | .closing => none
  | _ => columns

def laidLine (columns : Option (List Nat)) (line : List Char) : List Char :=
  match shape line, columns with
  | .opening keyword name, _ => if keyword = .model then modelLine name line else trimEnd line
  | .closing, some _ => delimiter ['\x7d'] line
  | _, some widths => layEntry widths (entryOf line)
  | _, none => trimEnd line

def laid (columns : Option (List Nat)) : List (List Char) → List (List Char)
  | [] => []
  | line :: rest => laidLine columns line :: laid (columnsAfter columns line rest) rest

section Stays

variable {line : List Char}

theorem StaysInBlock.inside (h : StaysInBlock line) (inside : Bool) : insideAfter inside line = inside := by
  unfold insideAfter
  split
  · next k name hs => exact absurd hs (h.2 k name)
  · next hs => exact absurd hs h.1
  · rfl

theorem StaysInBlock.columns (h : StaysInBlock line) (columns : Option (List Nat)) (rest : List (List Char)) :
    columnsAfter columns line rest = columns := by
  unfold columnsAfter
  split
  · next k name hs => exact absurd hs (h.2 k name)
  · next hs => exact absurd hs h.1
  · rfl

theorem StaysInBlock.ahead (h : StaysInBlock line) (rest : List (List Char)) :
    ahead (line :: rest) = entryOf line :: ahead rest := by
  rw [Document.ahead]
  split
  · next k name hs => exact absurd hs (h.2 k name)
  · next hs => exact absurd hs h.1
  · rfl

theorem StaysInBlock.laidLine_some (h : StaysInBlock line) (widths : List Nat) :
    laidLine (some widths) line = layEntry widths (entryOf line) := by
  unfold laidLine
  cases hs : shape line with
  | opening k name => exact absurd hs (h.2 k name)
  | closing => exact absurd hs h.1
  | _ => rfl

theorem laidLine_none (h : ∀ k name, shape line ≠ .opening k name) : laidLine none line = trimEnd line := by
  unfold laidLine
  cases hs : shape line with
  | opening k name => exact absurd hs (h k name)
  | _ => rfl

theorem laidLine_opening {k : Keyword} {name : String} (h : shape line = .opening k name)
    (columns : Option (List Nat)) :
    laidLine columns line = if k = .model then modelLine name line else trimEnd line := by
  simp [laidLine, h]

theorem laidLine_closing (h : shape line = .closing) (widths : List Nat) :
    laidLine (some widths) line = delimiter ['\x7d'] line := by
  simp [laidLine, h]

theorem entryOf_field {l : FieldLine} (hs : shape line = .field) (h : readField line = .ok l) :
    entryOf line = .row (rowCells l (trailing line)) := by
  simp [entryOf, hs, h]

theorem entryOf_blank (hs : shape line = .blank) : entryOf line = .verbatim [] := by
  simp [entryOf, hs]

theorem entryOf_indented (hs : shape line = .comment ∨ shape line = .directive) :
    entryOf line = .verbatim (indent ++ trim line) := by
  rcases hs with hs | hs <;> simp [entryOf, hs]

theorem entryOf_other (hs : shape line = .other) : entryOf line = .verbatim (trimEnd line) := by
  simp [entryOf, hs]

end Stays

theorem columnsAfter_isSome (columns : Option (List Nat)) (line : List Char) (rest : List (List Char)) :
    (columnsAfter columns line rest).isSome = insideAfter columns.isSome line := by
  unfold columnsAfter insideAfter
  split
  · next k name _ => by_cases hk : k = .model <;> simp [hk]
  · rfl
  · rfl

/-! ## The formatter looks ahead -/

section Steps

variable {f : Formatter} {line : List Char}

theorem layStep_opening {k : Keyword} {name : String} (h : shape line = .opening k name) :
    layStep f line = .ok (f.openBlock k name line) := by
  simp [layStep, h]

theorem layStep_outside (h : ∀ k name, shape line ≠ .opening k name) (hf : f.entries = none) :
    layStep f line = .ok (f.write (trimEnd line)) := by
  unfold layStep
  split
  · next k name hs => exact absurd hs (h k name)
  · rw [hf]; rfl

theorem layStep_closing (h : shape line = .closing) {entries : List Entry} (hf : f.entries = some entries) :
    layStep f line = .ok (f.write (delimiter ['\x7d'] line)) := by
  simp [layStep, h, hf]

theorem layStep_entry (h : StaysInBlock line) (hread : shape line = .field → ∃ l, readField line = .ok l)
    {entries : List Entry} (hf : f.entries = some entries) : layStep f line = .ok (f.add (entryOf line)) := by
  unfold entryOf
  cases hs : shape line with
  | field =>
    obtain ⟨l, hl⟩ := hread hs
    simp [layStep, hs, hf, hl, fieldCells_eq hl]
  | opening k name => exact absurd hs (h.2 k name)
  | closing => exact absurd hs h.1
  | blank => simp [layStep, hs, hf]
  | comment => simp [layStep, hs, hf]
  | directive => simp [layStep, hs, hf]
  | other => simp [layStep, hs, hf]

end Steps

theorem layLines_cons (f : Formatter) (line : List Char) (rest : List (List Char)) :
    layLines f (line :: rest) = (layStep f line).bind fun f' => layLines f' rest := rfl

theorem modelFields_rest {inside : Bool} {line : List Char} {rest : List (List Char)} {x : List Char}
    (h : x ∈ modelFields (insideAfter inside line) rest) : x ∈ modelFields inside (line :: rest) := by
  rw [modelFields]
  split
  · exact List.mem_cons_of_mem _ h
  · exact h

theorem modelFields_head {line : List Char} {rest : List (List Char)} (h : shape line = .field) :
    line ∈ modelFields true (line :: rest) := by
  rw [modelFields, if_pos (by simp [h])]
  exact List.mem_cons_self

theorem mem_modelFields_of_inside {before after : List (List Char)} {line : List Char} {inside : Bool}
    (h : before.foldl insideAfter inside = true) (hs : shape line = .field) :
    line ∈ modelFields inside (before ++ line :: after) := by
  induction before generalizing inside with
  | nil =>
    rw [show inside = true from h]
    exact modelFields_head hs
  | cons first before ih => exact modelFields_rest (ih h)

/-- the columns of the open model, with `rest` the lines that follow -/
def Formatter.columns (f : Formatter) (rest : List (List Char)) : Option (List Nat) :=
  f.entries.map fun entries => widthsOf (entries ++ ahead rest)

/-- the lines so far, those that wait at the widths that they will have -/
def Formatter.linesBefore (f : Formatter) (rest : List (List Char)) : List (List Char) :=
  f.written ++ (f.entries.getD []).map (layEntry (widthsOf (f.entries.getD [] ++ ahead rest)))

theorem linesBefore_nil (f : Formatter) : f.linesBefore [] = f.lines := by
  simp [Formatter.linesBefore, Formatter.lines, layEntries, ahead, widthsOf]

theorem linesBefore_none {f : Formatter} (h : f.entries = none) (rest : List (List Char)) :
    f.linesBefore rest = f.written := by
  simp [Formatter.linesBefore, h]

/-- what waits is written as it stands where no entry is ahead -/
theorem linesBefore_eq {f : Formatter} {rest : List (List Char)} (h : ahead rest = []) :
    f.linesBefore rest = f.lines := by
  simp [Formatter.linesBefore, Formatter.lines, layEntries, h, widthsOf]

/-- **One step of the formatter** writes its line laid out, and keeps the columns in view. -/
theorem layStep_laid {f : Formatter} {line : List Char} (rest : List (List Char))
    (hread : f.entries.isSome = true → shape line = .field → ∃ l, readField line = .ok l) :
    ∃ f', layStep f line = .ok f' ∧
      f'.linesBefore rest = f.linesBefore (line :: rest) ++ [laidLine (f.columns (line :: rest)) line] ∧
      f'.columns rest = columnsAfter (f.columns (line :: rest)) line rest := by
  have hwrite : ∀ text, (f.write text).linesBefore rest = f.lines ++ [text] := fun text => linesBefore_none rfl rest
  rcases opens_or_closes_or_stays line with ⟨k, name, hs⟩ | hs | hs
  · -- a line that opens a block: what waits is written, with no entry ahead
    have hahead : ahead (line :: rest) = [] := by simp [ahead, hs]
    refine ⟨f.openBlock k name line, layStep_opening hs, ?_, ?_⟩
    · rw [linesBefore_eq hahead, laidLine_opening hs]
      by_cases hk : k = .model
      · simp [Formatter.openBlock, hk, Formatter.linesBefore, Formatter.write]
      · simp [Formatter.openBlock, hk, hwrite]
    · by_cases hk : k = .model <;>
        simp [Formatter.openBlock, Formatter.columns, Formatter.write, columnsAfter, hs, hk]
  · have hahead : ahead (line :: rest) = [] := by simp [ahead, hs]
    have hopen : ∀ k name, shape line ≠ .opening k name := by simp [hs]
    cases hf : f.entries with
    | none =>
      refine ⟨f.write (trimEnd line), layStep_outside hopen hf, ?_, ?_⟩
      · rw [hwrite, linesBefore_eq hahead, Formatter.columns, hf, Option.map_none, laidLine_none hopen]
      · simp [Formatter.write, Formatter.columns, columnsAfter, hs]
    | some entries =>
      refine ⟨f.write (delimiter ['\x7d'] line), layStep_closing hs hf, ?_, ?_⟩
      · rw [hwrite, linesBefore_eq hahead, Formatter.columns, hf, Option.map_some, laidLine_closing hs]
      · simp [Formatter.write, Formatter.columns, columnsAfter, hs]
  · cases hf : f.entries with
    | none =>
      refine ⟨f.write (trimEnd line), layStep_outside hs.2 hf, ?_, ?_⟩
      · rw [hwrite, linesBefore_none hf, Formatter.columns, hf, Option.map_none, laidLine_none hs.2]
        simp [Formatter.lines, hf, layEntries]
      · simp [Formatter.write, Formatter.columns, hs.columns, hf]
    | some entries =>
      -- a line that waits: it comes after the entries so far and before those ahead
      refine ⟨f.add (entryOf line), layStep_entry hs (hread (by rw [hf]; rfl)) hf, ?_, ?_⟩
      · simp [Formatter.linesBefore, Formatter.add, Formatter.columns, hf, hs.ahead, hs.laidLine_some]
      · simp [Formatter.add, Formatter.columns, hf, hs.ahead, hs.columns]

/-- **The formatter looks ahead.** Collecting the entries of a model and laying them out at its end gives the lines
that are laid out one by one, at the widths of all entries of their model. -/
theorem layLines_laid {lines : List (List Char)} {f : Formatter}
    (h : ∀ line ∈ modelFields f.entries.isSome lines, ∃ l, readField line = .ok l) :
    ∃ f', layLines f lines = .ok f' ∧ f'.lines = f.linesBefore lines ++ laid (f.columns lines) lines := by
  induction lines generalizing f with
  | nil => exact ⟨f, rfl, by rw [linesBefore_nil, laid, List.append_nil]⟩
  | cons line rest ih =>
    have hread : f.entries.isSome = true → shape line = .field → ∃ l, readField line = .ok l := by
      intro hf hs
      refine h line ?_
      rw [hf]
      exact modelFields_head hs
    obtain ⟨f₁, hstep, hbefore, hcolumns⟩ := layStep_laid rest hread
    have hinside : f₁.entries.isSome = insideAfter f.entries.isSome line := by
      have := congrArg Option.isSome hcolumns
      rwa [columnsAfter_isSome, Formatter.columns, Formatter.columns, Option.isSome_map, Option.isSome_map] at this
    obtain ⟨f', hrun, hlines⟩ := ih (f := f₁) fun x hx => h x (modelFields_rest (hinside ▸ hx))
    refine ⟨f', ?_, ?_⟩
    · rw [layLines_cons, hstep]
      exact hrun
    · rw [hlines, hbefore, hcolumns, laid, List.append_assoc]
      rfl

/-! ## What a successful reading says -/

def Block.isModel : Block → Bool
  | .model _ => true
  | _ => false

/-- reader and formatter agree on where a model is open -/
theorem step_inside {strict : Bool} {r r' : Reader} {line : List Char} {n : Nat}
    (h : step strict r (line, n) = .ok r') : r'.block.isModel = insideAfter r.block.isModel line := by
  have hopen : ∀ k name, (openBlock k name n).isModel = decide (k = .model) := by
    intro k name
    by_cases hk : k = .model <;> simp [openBlock, hk, Block.isModel]
  cases step_effect h with
  | idle hclosing hopening hfield => exact (StaysInBlock.inside ⟨hclosing, hopening⟩ _).symm
  | stray hs hblock hshape => rcases hshape with hshape | hshape <;> simp [insideAfter, hshape]
  | opens k name hshape hblock => simp [insideAfter, hshape, hopen]
  | drops k name d hs hshape hblock => simp [insideAfter, hshape, hopen]
  | commits d hshape hblock => simp [insideAfter, hshape, Block.isModel]
  | leaves hshape hblock => simp [insideAfter, hshape, Block.isModel]
  | adds d l hshape hblock hline hnew => simp [insideAfter, hshape, hblock, Block.isModel]

theorem step_reads {strict : Bool} {r r' : Reader} {line : List Char} {n : Nat} (h : step strict r (line, n) = .ok r')
    (hmodel : r.block.isModel = true) (hfield : shape line = .field) : ∃ l, readField line = .ok l := by
  cases hb : r.block with
  | outside => rw [hb] at hmodel; cases hmodel
  | skipped => rw [hb] at hmodel; cases hmodel
  | model d =>
    cases step_effect h with
    | idle hclosing hopening hidle => exact absurd hb (hidle hfield d)
    | stray hs hblock hshape => rw [hblock] at hb; cases hb
    | opens k name hshape hblock => exact absurd hb (hblock d)
    | drops k name d hs hshape hblock => rw [hfield] at hshape; cases hshape
    | commits d hshape hblock => rw [hfield] at hshape; cases hshape
    | leaves hshape hblock => exact absurd hb (hblock d)
    | adds d l hshape hblock hline hnew => exact ⟨l, hline⟩

/-- every field line of a model is understood when the document is read -/
theorem run_reads {strict : Bool} {lines : List (List Char)} {r r' : Reader} {n : Nat}
    (h : run strict r (lines.zipIdx n) = .ok r') :
    ∀ line ∈ modelFields r.block.isModel lines, ∃ l, readField line = .ok l := by
  induction lines generalizing r n with
  | nil => intro line hline; cases hline
  | cons line rest ih =>
    obtain ⟨r₁, hstep, hrun⟩ := run_cons_ok h
    have hrest := ih hrun
    rw [step_inside hstep] at hrest
    intro x hx
    rw [modelFields] at hx
    split at hx
    · next hc =>
      simp only [Bool.and_eq_true, decide_eq_true_eq] at hc
      rcases List.mem_cons.1 hx with rfl | hx
      · exact step_reads hstep hc.1 hc.2
      · exact hrest x hx
    · exact hrest x hx

theorem read_reads {strict : Bool} {source : String} {o : Outcome} (h : read strict source = .ok o) :
    ∀ line ∈ modelFields false (splitLines source.toList), ∃ l, readField line = .ok l := by
  obtain ⟨r, r', hr, -, -⟩ := read_ok h
  exact run_reads (r := .start) hr

/-! ## Canonical lines -/

theorem mem_trimEnd {text : List Char} {c : Char} (h : c ∈ trimEnd text) : c ∈ text := by
  obtain ⟨tail, htail, -⟩ := trimEnd_append text
  rw [htail]
  exact List.mem_append_left _ h

theorem isLine_trimEnd {line : List Char} (h : '\n' ∉ line) : IsLine (trimEnd line) :=
  ⟨fun hm => h (mem_trimEnd hm), trimEnd_tight line⟩

theorem isLine_delimiter {text line : List Char} (htext : IsLine text) (h : '\n' ∉ line) :
    IsLine (delimiter text line) := by
  refine ⟨fun hm => ?_, delimiter_tight htext.2⟩
  unfold delimiter at hm
  split at hm
  · next comment hcomment =>
    obtain ⟨hline, -, -⟩ := commentOf?_eq_some hcomment
    rcases List.mem_append.1 hm with hm | hm
    · exact htext.1 hm
    rcases List.mem_cons.1 hm with hm | hm
    · cases hm
    · refine h (mem_trim ?_)
      rw [hline]
      exact List.mem_append_right _ hm
  · exact htext.1 hm

theorem isLine_modelLine {name : String} {line : List Char} (hname : IsModelName name.toList) (h : '\n' ∉ line) :
    IsLine (modelLine name line) := by
  have hcode : IsLine (modelCode name.toList) := ⟨fun hm => ?_, modelCode_tight _⟩
  · exact isLine_delimiter hcode h
  rw [modelCode_eq] at hm
  rcases List.mem_append.1 hm with hm | hm
  · exact absurd hm (by decide)
  rcases List.mem_append.1 hm with hm | hm
  · exact absurd (hname.word _ hm) (by decide)
  · exact absurd hm (by decide)

theorem isLine_entry {line : List Char} (h : '\n' ∉ line) (hread : shape line = .field → ∃ l, readField line = .ok l)
    (widths : List Nat) : IsLine (layEntry widths (entryOf line)) := by
  have hindented : shape line ≠ .blank → IsLine (indent ++ trim line) := by
    intro hs
    have hne : trim line ≠ [] := fun hnil => hs (by simp [shape, hnil])
    refine ⟨fun hm => ?_, (trim_tight line).append hne⟩
    rcases List.mem_append.1 hm with hm | hm
    · exact absurd hm (by decide)
    · exact h (mem_trim hm)
  unfold entryOf
  cases hs : shape line with
  | field =>
    obtain ⟨l, hl⟩ := hread hs
    simp only [hl]
    exact ⟨newline_not_mem_row hl h widths, row_tight hl widths (trailing_tight line)⟩
  | blank => exact ⟨by simp [layEntry], fun c hc => by cases hc⟩
  | comment => exact hindented (by simp [hs])
  | directive => exact hindented (by simp [hs])
  | opening k name => exact isLine_trimEnd h
  | closing => exact isLine_trimEnd h
  | other => exact isLine_trimEnd h

theorem laidLine_isLine {columns : Option (List Nat)} {line : List Char} (h : '\n' ∉ line)
    (hread : columns.isSome = true → shape line = .field → ∃ l, readField line = .ok l) :
    IsLine (laidLine columns line) := by
  rcases opens_or_closes_or_stays line with ⟨k, name, hs⟩ | hs | hs
  · rw [laidLine_opening hs]
    split
    · next hk => subst hk; exact isLine_modelLine (opening_isModelName hs) h
    · exact isLine_trimEnd h
  · cases columns with
    | none => rw [laidLine_none (by simp [hs])]; exact isLine_trimEnd h
    | some widths =>
      rw [laidLine_closing hs]
      exact isLine_delimiter ⟨by decide, fun c hc => by cases hc; decide⟩ h
  · cases columns with
    | none => rw [laidLine_none hs.2]; exact isLine_trimEnd h
    | some widths => rw [hs.laidLine_some]; exact isLine_entry h (hread rfl) widths

theorem laid_isLine {lines : List (List Char)} {columns : Option (List Nat)} (h : ∀ line ∈ lines, '\n' ∉ line)
    (hread : ∀ line ∈ modelFields columns.isSome lines, ∃ l, readField line = .ok l) :
    ∀ line ∈ laid columns lines, IsLine line := by
  induction lines generalizing columns with
  | nil => intro line hline; cases hline
  | cons line rest ih =>
    intro x hx
    rcases List.mem_cons.1 hx with rfl | hx
    · refine laidLine_isLine (h line List.mem_cons_self) fun hc hs => hread line ?_
      rw [hc]
      exact modelFields_head hs
    · refine ih (fun y hy => h y (List.mem_cons_of_mem _ hy)) (fun y hy => hread y ?_) x hx
      rw [columnsAfter_isSome] at hy
      exact modelFields_rest hy

/-- laying out goes line by line, with columns at the lines that stand inside models -/
theorem laid_split (before : List (List Char)) (line : List Char) (after : List (List Char))
    (columns : Option (List Nat)) : ∃ before' columns' after',
      laid columns (before ++ line :: after) = before' ++ laidLine columns' line :: after' ∧
      before'.length = before.length ∧ columns'.isSome = before.foldl insideAfter columns.isSome := by
  induction before generalizing columns with
  | nil => exact ⟨[], columns, _, rfl, rfl, rfl⟩
  | cons first before ih =>
    obtain ⟨before', columns', after', h1, h2, h3⟩ := ih (columnsAfter columns first (before ++ line :: after))
    refine ⟨laidLine columns first :: before', columns', after', ?_, ?_, ?_⟩
    · rw [List.cons_append, laid, h1, List.cons_append]
    · rw [List.length_cons, List.length_cons, h2]
    · rw [h3, columnsAfter_isSome, List.foldl_cons]

/-- the text of the lines of a document laid out -/
def canonical (source : String) : String := String.ofList (joinLines (laid none (splitLines source.toList)))

/-- **A document that is read can be formatted**, into its lines laid out one by one. -/
theorem format_laid {source : String} {o : Outcome} (h : read false source = .ok o) :
    format source = .ok (canonical source) := by
  obtain ⟨f, hf, hlines⟩ := layLines_laid (f := .start) (read_reads h)
  have hlaid : f.lines = laid none (splitLines source.toList) := hlines
  unfold format
  rw [h, hf, canonical, ← hlaid]
  rfl

theorem splitLines_canonical {source : String} {o : Outcome} (h : read false source = .ok o) :
    splitLines (canonical source).toList = laid none (splitLines source.toList) := by
  rw [canonical, String.toList_ofList]
  exact splitLines_joinLines (laid_isLine (newline_not_mem_splitLines _) (read_reads h))

end EntityScaffold.Document

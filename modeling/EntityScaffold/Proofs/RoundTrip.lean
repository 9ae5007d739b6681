import EntityScaffold.Proofs.Formatting
import EntityScaffold.Proofs.Rewriting

/-!
Settled documents. A document is settled when each field line inside a model and each line that opens a model reads
the same once it is written anew (`SettledFrom`). Laid out, such a line keeps its shape, does the same to the reader
(`step_laidLine`) and waits as the same entry (`entryOf_entry`); so the canonical text of the document is read alike
(`read_canonical`) and does not change when it is formatted again (`canonical_canonical`).
-/

namespace EntityScaffold.Document

open Text Line

/-! ## Settled documents -/

/-- the field lines inside models and the lines that open models read the same once they are written anew -/
structure SettledFrom (inside : Bool) (lines : List (List Char)) : Prop where
  openings : ∀ line ∈ lines, ∀ name, shape line = .opening .model name → SettledOpening name line
  fields : ∀ line ∈ modelFields inside lines, ∃ l, readField line = .ok l ∧ l.Settled

/-- a document that formatting leaves the same in meaning, told line by line -/
def Settled (source : String) : Prop := SettledFrom false (splitLines source.toList)

def modelName? (line : List Char) : Option String :=
  match shape line with
  | .opening .model name => some name
  | _ => none

theorem modelName?_eq_some {line : List Char} {name : String} :
    modelName? line = some name ↔ shape line = .opening .model name := by
  unfold modelName?
  split
  · next other hs => simp [hs]
  · next hs => exact iff_of_false nofun (hs name)

instance (line : List Char) : Decidable (∀ name, shape line = .opening .model name → SettledOpening name line) :=
  decidable_of_iff (∀ name ∈ modelName? line, SettledOpening name line)
    ⟨fun h name hs => h name (modelName?_eq_some.2 hs), fun h name hs => h name (modelName?_eq_some.1 hs)⟩

instance (line : List Char) : Decidable (∃ l, readField line = .ok l ∧ l.Settled) :=
  match readField line with
  | .ok l => decidable_of_iff l.Settled ⟨fun hs => ⟨l, rfl, hs⟩, fun ⟨_, hl, hs⟩ => Except.ok.inj hl ▸ hs⟩
  | .error _ => isFalse fun ⟨_, hl, _⟩ => nomatch hl

instance (inside : Bool) (lines : List (List Char)) : Decidable (SettledFrom inside lines) :=
  decidable_of_iff ((∀ line ∈ lines, ∀ name, shape line = .opening .model name → SettledOpening name line) ∧
    ∀ line ∈ modelFields inside lines, ∃ l, readField line = .ok l ∧ l.Settled)
    ⟨fun h => ⟨h.1, h.2⟩, fun h => ⟨h.openings, h.fields⟩⟩

instance (source : String) : Decidable (Settled source) := inferInstanceAs (Decidable (SettledFrom _ _))

/-- no name of a model has a quote, and each field line inside a model has at most one clause, a settled one -/
structure Plain (source : String) : Prop where
  names : ∀ line ∈ splitLines source.toList, ∀ name, shape line = .opening .model name → '"' ∉ name.toList
  fields : ∀ line ∈ modelFields false (splitLines source.toList), ∀ l, readField line = .ok l →
    (∀ t ∈ l.others, startsClause t = false) ∧ ∀ c, l.clause = some c → c.Settled

/-- **Plain documents are settled**, whatever attributes their fields have, in whatever order and however often. -/
theorem Plain.settled {source : String} {o : Outcome} (hplain : Plain source) (h : read false source = .ok o) :
    Settled source := by
  refine ⟨fun line hline name hs => Or.inr (placeAfter_of_no_quote (hplain.names line hline name hs)), ?_⟩
  intro line hline
  obtain ⟨l, hl⟩ := read_reads h line hline
  obtain ⟨hothers, hclause⟩ := hplain.fields line hline l hl
  exact ⟨l, hl, settled_of_single hl hothers hclause⟩

/-- what a settled document says of one line -/
structure SettledLine (inside : Bool) (line : List Char) : Prop where
  opening : ∀ name, shape line = .opening .model name → SettledOpening name line
  field : inside = true → shape line = .field → ∃ l, readField line = .ok l ∧ l.Settled

theorem SettledLine.reads {inside : Bool} {line : List Char} (h : SettledLine inside line) (hi : inside = true)
    (hs : shape line = .field) : ∃ l, readField line = .ok l := by
  obtain ⟨l, hl, -⟩ := h.field hi hs
  exact ⟨l, hl⟩

section Head

variable {inside : Bool} {line : List Char} {rest : List (List Char)}

theorem SettledFrom.head (h : SettledFrom inside (line :: rest)) : SettledLine inside line where
  opening := h.openings line List.mem_cons_self
  field hi hs := h.fields line (hi ▸ modelFields_head hs)

theorem SettledFrom.tail (h : SettledFrom inside (line :: rest)) : SettledFrom (insideAfter inside line) rest where
  openings x hx := h.openings x (List.mem_cons_of_mem _ hx)
  fields x hx := h.fields x (modelFields_rest hx)

end Head

/-! ## One line -/

section OneLine

variable {line : List Char}

theorem shape_of_stays (h : StaysInBlock line) : shape line = .field ∨ shape line = .blank ∨
    (shape line = .comment ∨ shape line = .directive) ∨ shape line = .other := by
  cases hs : shape line with
  | opening k name => exact absurd hs (h.2 k name)
  | closing => exact absurd hs h.1
  | _ => simp

theorem trim_indent (line : List Char) : trim (indent ++ trim line) = trim line := by
  rw [trim_blanks_append _ indent_blanks, trim_trim]

theorem shape_entry (hs : StaysInBlock line) (hread : shape line = .field → ∃ l, readField line = .ok l)
    (widths : List Nat) : shape (layEntry widths (entryOf line)) = shape line := by
  rcases shape_of_stays hs with h | h | h | h
  · obtain ⟨l, hl⟩ := hread h
    rw [entryOf_field h hl, h]
    exact row_shape hl widths _
  · rw [entryOf_blank h, h]
    rfl
  · rw [entryOf_indented h]
    exact shape_of_trim (trim_indent line) h
  · rw [entryOf_other h]
    exact shape_trimEnd line

/-- an entry that is laid out waits as the same entry again -/
theorem entryOf_entry (hs : StaysInBlock line) (h : SettledLine true line) (widths : List Nat) :
    entryOf (layEntry widths (entryOf line)) = entryOf line := by
  have hshape := shape_entry hs (h.reads rfl) widths
  rcases shape_of_stays hs with hf | hb | hi | ho
  · obtain ⟨l, hl, hsettled⟩ := h.field rfl hf
    rw [hf] at hshape
    rw [entryOf_field hf hl] at hshape ⊢
    obtain ⟨hread, htrailing⟩ := row_reads hl hsettled widths
    rw [entryOf_field hshape hread, htrailing]
  · rw [entryOf_blank (hshape.trans hb), entryOf_blank hb]
  · rw [entryOf_indented (hshape ▸ hi), entryOf_indented hi, layEntry, trim_indent]
  · rw [entryOf_other (hshape.trans ho), entryOf_other ho, layEntry, trimEnd_eq_self (trimEnd_tight line)]

theorem shape_laidLine {columns : Option (List Nat)}
    (hopening : ∀ name, shape line = .opening .model name → SettledOpening name line)
    (hread : columns.isSome = true → shape line = .field → ∃ l, readField line = .ok l) :
    shape (laidLine columns line) = shape line := by
  rcases opens_or_closes_or_stays line with ⟨k, name, hs⟩ | hs | hs
  · rw [laidLine_opening hs]
    split
    · next hk =>
      subst hk
      rw [(shape_modelLine (opening_isModelName hs) (hopening name hs)).1, hs]
    · exact shape_trimEnd line
  · cases columns with
    | none => rw [laidLine_none (by simp [hs]), shape_trimEnd]
    | some widths => rw [laidLine_closing hs, (shape_closing line).1, hs]
  · cases columns with
    | none => rw [laidLine_none hs.2, shape_trimEnd]
    | some widths =>
      rw [hs.laidLine_some]
      exact shape_entry hs (hread rfl) widths

theorem SettledLine.shape_laid {columns : Option (List Nat)} (h : SettledLine columns.isSome line) :
    shape (laidLine columns line) = shape line :=
  shape_laidLine h.opening h.reads

/-- **A settled line is laid out once and for all.** -/
theorem laidLine_laidLine {columns : Option (List Nat)} (h : SettledLine columns.isSome line) :
    laidLine columns (laidLine columns line) = laidLine columns line := by
  have hshape := h.shape_laid
  rcases opens_or_closes_or_stays line with ⟨k, name, hs⟩ | hs | hs
  · rw [hs] at hshape
    rw [laidLine_opening hshape, laidLine_opening hs]
    split
    · next hk =>
      subst hk
      exact delimiter_congr (shape_modelLine (opening_isModelName hs) (h.opening name hs)).2
    · exact trimEnd_eq_self (trimEnd_tight line)
  · cases columns with
    | none =>
      have hopen : ∀ k name, shape line ≠ .opening k name := by simp [hs]
      rw [laidLine_none (by rw [hshape]; exact hopen), laidLine_none hopen, trimEnd_eq_self (trimEnd_tight line)]
    | some widths =>
      rw [hs] at hshape
      rw [laidLine_closing hshape, laidLine_closing hs]
      exact delimiter_congr (shape_closing line).2
  · have hs' : StaysInBlock (laidLine columns line) := by rw [StaysInBlock, hshape]; exact hs
    cases columns with
    | none => rw [laidLine_none hs'.2, laidLine_none hs.2, trimEnd_eq_self (trimEnd_tight line)]
    | some widths => rw [hs'.laidLine_some, hs.laidLine_some, entryOf_entry hs h]

end OneLine

/-! ## All lines -/

theorem ahead_laid {lines : List (List Char)} (h : SettledFrom true lines) (widths : List Nat) :
    ahead (laid (some widths) lines) = ahead lines := by
  induction lines with
  | nil => rfl
  | cons line rest ih =>
    have hhead : SettledLine (some widths).isSome line := h.head
    have hshape := hhead.shape_laid
    rw [laid]
    rcases opens_or_closes_or_stays line with ⟨k, name, hs⟩ | hs | hs
    · simp [ahead, hshape, hs]
    · simp [ahead, hshape, hs]
    · have hs' : StaysInBlock (laidLine (some widths) line) := by rw [StaysInBlock, hshape]; exact hs
      have hrest := h.tail
      rw [hs.inside] at hrest
      rw [hs'.ahead, hs.ahead, hs.columns, ih hrest, hs.laidLine_some, entryOf_entry hs h.head]

theorem columnsAfter_laid {columns : Option (List Nat)} {line : List Char} {rest : List (List Char)}
    (h : SettledFrom columns.isSome (line :: rest)) :
    columnsAfter columns (laidLine columns line) (laid (columnsAfter columns line rest) rest) =
      columnsAfter columns line rest := by
  have hshape := h.head.shape_laid
  have hrest := h.tail
  rcases opens_or_closes_or_stays line with ⟨k, name, hs⟩ | hs | hs
  · by_cases hk : k = .model
    · subst hk
      have hcolumns : columnsAfter columns line rest = some (widthsOf (ahead rest)) := by simp [columnsAfter, hs]
      have hinside : insideAfter columns.isSome line = true := by simp [insideAfter, hs]
      rw [hinside] at hrest
      rw [hcolumns, ← ahead_laid hrest (widthsOf (ahead rest))]
      simp [columnsAfter, hshape, hs, ahead_laid hrest]
    · simp [columnsAfter, hshape, hs, hk]
  · simp [columnsAfter, hshape, hs]
  · have hs' : StaysInBlock (laidLine columns line) := by rw [StaysInBlock, hshape]; exact hs
    rw [hs'.columns, hs.columns]

/-- **Laying out twice.** Settled lines that are laid out do not change when they are laid out again. -/
theorem laid_laid {lines : List (List Char)} {columns : Option (List Nat)} (h : SettledFrom columns.isSome lines) :
    laid columns (laid columns lines) = laid columns lines := by
  induction lines generalizing columns with
  | nil => rfl
  | cons line rest ih =>
    have hrest := h.tail
    rw [← columnsAfter_isSome columns line rest] at hrest
    rw [laid, laid, columnsAfter_laid h, laidLine_laidLine h.head, ih hrest]

/-- lines of one shape do the same where they are fields of one model, or are shown alike -/
theorem step_congr {strict : Bool} {a b : List Char} {r : Reader} (n : Nat) (hshape : shape a = shape b)
    (hfield : r.block.isModel = true → shape b = .field → ∃ l, readField a = .ok l ∧ readField b = .ok l)
    (hshown : r.block.isModel = false → (∀ k name, shape b ≠ .opening k name) → shownText a = shownText b) :
    step strict r (a, n) = step strict r (b, n) := by
  obtain ⟨schema, problems, block⟩ := r
  simp only [step, hshape]
  cases hs : shape b with
  | field =>
    cases block with
    | model d =>
      obtain ⟨l, ha, hb⟩ := hfield rfl hs
      simp only [Draft.readField, ha, hb]
    | outside => simp only [hshown rfl (by simp [hs])]
    | skipped => rfl
  | other =>
    cases block with
    | outside => simp only [hshown rfl (by simp [hs])]
    | model d => rfl
    | skipped => rfl
  | _ => rfl

/-- a settled line does to the reader what it does when it is laid out -/
theorem step_laidLine {strict : Bool} {r : Reader} {columns : Option (List Nat)} {line : List Char} (n : Nat)
    (hr : r.block.isModel = columns.isSome) (h : SettledLine columns.isSome line) :
    step strict r (laidLine columns line, n) = step strict r (line, n) := by
  refine step_congr n h.shape_laid (fun hm hs => ?_) fun hm hs => ?_
  · obtain ⟨widths, rfl⟩ := Option.isSome_iff_exists.1 (hr ▸ hm)
    obtain ⟨l, hl, hsettled⟩ := h.field rfl hs
    have hstays : StaysInBlock line := by simp [StaysInBlock, hs]
    refine ⟨l, ?_, hl⟩
    rw [hstays.laidLine_some, entryOf_field hs hl]
    exact (row_reads hl hsettled widths).1
  · have hnone : columns = none := Option.isNone_iff_eq_none.1 (by rw [← Option.not_isSome, ← hr, hm]; rfl)
    rw [hnone, laidLine_none hs, shownText, shownText, trim_trimEnd]

/-- **Laid out lines are read alike.** A run over settled lines does the same once they are laid out. -/
theorem run_laid {strict : Bool} {lines : List (List Char)} {r : Reader} {columns : Option (List Nat)} {n : Nat}
    (hr : r.block.isModel = columns.isSome) (h : SettledFrom columns.isSome lines) :
    run strict r ((laid columns lines).zipIdx n) = run strict r (lines.zipIdx n) := by
  induction lines generalizing r columns n with
  | nil => rfl
  | cons line rest ih =>
    rw [laid, List.zipIdx_cons, List.zipIdx_cons, run_cons, run_cons, step_laidLine n hr h.head]
    cases hstep : step strict r (line, n) with
    | error e => rfl
    | ok r1 =>
      have hrest := h.tail
      rw [← columnsAfter_isSome columns line rest] at hrest
      exact ih (by rw [step_inside hstep, hr, columnsAfter_isSome]) hrest

/-- **A settled document keeps its meaning**: its canonical text is read in the same way. -/
theorem read_canonical {source : String} {o : Outcome} (h : read false source = .ok o) (hs : Settled source) :
    read false (canonical source) = .ok o := by
  have hstart : Reader.start.block.isModel = (none : Option (List Nat)).isSome := rfl
  have hrun : run false .start ((laid none (splitLines source.toList)).zipIdx 1) =
      run false .start ((splitLines source.toList).zipIdx 1) := run_laid hstart hs
  rw [← h]
  unfold read numberedLines
  rw [splitLines_canonical h, hrun]

/-- **Formatting a settled document settles it**: its canonical text is its own canonical text. -/
theorem canonical_canonical {source : String} {o : Outcome} (h : read false source = .ok o) (hs : Settled source) :
    canonical (canonical source) = canonical source := by
  have hlines : SettledFrom (none : Option (List Nat)).isSome (splitLines source.toList) := hs
  rw [canonical, splitLines_canonical h, laid_laid hlines]
  rfl

end EntityScaffold.Document

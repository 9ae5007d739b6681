import EntityScaffold.Document.Layout
import EntityScaffold.Proofs.Attributes
import EntityScaffold.Proofs.ClauseText
import EntityScaffold.Proofs.Shape

/-!
A field in columns. However wide the columns are, a row is the cells with spaces between them (`Row`), so it reads
as its cells do: the code holds name, type and attributes, the comment is the last cell. A settled field line is
read back from its row (`row_reads`), and a field line that is read back from a row that does not change is settled
(`settled_of_row`).
-/

namespace EntityScaffold.Grid

open Text

/-! ## The cells of a row -/

/-- a row is cut behind its last cell that is not empty -/
theorem trimCells_append (row : List (List Char)) : ∃ more, row = trimCells row ++ more ∧ (∀ cell ∈ more, cell = []) ∧
    (trimCells row).getLast? ≠ some [] := by
  induction row with
  | nil => exact ⟨[], rfl, nofun, nofun⟩
  | cons cell row ih =>
    obtain ⟨more, hrow, hmore, hlast⟩ := ih
    rw [trimCells]
    cases hkept : trimCells row with
    | nil =>
      rw [hkept, List.nil_append] at hrow
      by_cases hcell : cell = []
      · rw [if_pos hcell]
        exact ⟨cell :: row, rfl, List.forall_mem_cons.2 ⟨hcell, hrow ▸ hmore⟩, nofun⟩
      · rw [if_neg hcell]
        refine ⟨more, by rw [← hrow]; rfl, hmore, ?_⟩
        rw [List.getLast?_singleton]
        exact fun h => hcell (Option.some.inj h)
    | cons next kept =>
      rw [hkept] at hrow hlast
      exact ⟨more, congrArg (cell :: ·) hrow, hmore, by rwa [List.getLast?_cons_cons]⟩

theorem mem_trimCells {cells : List (List Char)} {cell : List Char} (h : cell ∈ trimCells cells) : cell ∈ cells := by
  obtain ⟨more, hcells, -⟩ := trimCells_append cells
  rw [hcells]
  exact List.mem_append_left more h

theorem mem_layCells {width : List Char → Nat} {gap : Nat} {widths : List Nat} {cells : List (List Char)} {c : Char}
    (h : c ∈ layCells width gap widths cells) : c = ' ' ∨ ∃ cell ∈ cells, c ∈ cell := by
  induction cells generalizing widths with
  | nil => cases h
  | cons cell rest ih =>
    cases rest with
    | nil => exact Or.inr ⟨cell, List.mem_cons_self, h⟩
    | cons next rest =>
      rw [layCells, List.mem_append, List.mem_append, pad, List.mem_append] at h
      rcases h with ((h | h) | h) | h
      · exact Or.inr ⟨cell, List.mem_cons_self, h⟩
      · exact Or.inl (List.eq_of_mem_replicate h)
      · exact Or.inl (List.eq_of_mem_replicate h)
      · exact (ih h).imp_right fun ⟨other, hother, hc⟩ => ⟨other, List.mem_cons_of_mem _ hother, hc⟩

theorem mem_layRow {width : List Char → Nat} {widths : List Nat} {gap : Nat} {cells : List (List Char)} {c : Char}
    (h : c ∈ layRow widths gap cells width) : c = ' ' ∨ ∃ cell ∈ cells, c ∈ cell :=
  (mem_layCells h).imp_right fun ⟨cell, hcell, hc⟩ => ⟨cell, mem_trimCells hcell, hc⟩

end EntityScaffold.Grid

namespace EntityScaffold.Document

open Text Line

/-! ## The layout of a row -/

/-- a text that is four cells with spaces between them; empty cells at the end leave nothing behind -/
structure Row (name rawType attributes comment text gap₁ gap₂ gap₃ : List Char) : Prop where
  eq : text = indent ++ name ++ gap₁ ++ rawType ++ gap₂ ++ attributes ++ gap₃ ++ comment
  spaces₁ : ∀ c ∈ gap₁, c = ' '
  spaces₂ : ∀ c ∈ gap₂, c = ' '
  spaces₃ : ∀ c ∈ gap₃, c = ' '
  apart₁ : gap₁ ≠ []
  apart₂ : attributes ≠ [] → gap₂ ≠ []
  apart₃ : comment ≠ [] → gap₃ ≠ []
  close₃ : comment = [] → gap₃ = []
  close₂ : attributes = [] → comment = [] → gap₂ = []

theorem gap_spaces (n : Nat) : ∀ c ∈ List.replicate n ' ' ++ [' '], c = ' ' := by
  intro c hc
  rcases List.mem_append.1 hc with hc | hc
  · exact List.eq_of_mem_replicate hc
  · exact List.mem_singleton.1 hc

theorem spaces_blank {gap : List Char} (h : ∀ c ∈ gap, c = ' ') : ∀ c ∈ gap, isBlank c = true :=
  fun c hc => h c hc ▸ by decide

theorem layEntry_row (widths : List Nat) (name : List Char) {rawType : List Char} (attributes comment : List Char)
    (htype : rawType ≠ []) : ∃ gap₁ gap₂ gap₃, Row name rawType attributes comment
      (layEntry widths (.row [name, rawType, attributes, comment])) gap₁ gap₂ gap₃ := by
  have hgap : ∀ n, List.replicate n ' ' ++ [' '] ≠ [] := fun n => by simp
  by_cases hc : comment = []
  · by_cases ha : attributes = []
    · subst hc ha
      refine ⟨List.replicate (widths.headD 0 - displayWidth name) ' ' ++ [' '], [], [], ?_, gap_spaces _, by simp,
        by simp, hgap _, by simp, by simp, by simp, by simp⟩
      simp [layEntry, Grid.layRow, Grid.trimCells, Grid.layCells, Grid.pad, htype]
    · subst hc
      refine ⟨List.replicate (widths.headD 0 - displayWidth name) ' ' ++ [' '],
        List.replicate (widths.tail.headD 0 - displayWidth rawType) ' ' ++ [' '], [], ?_, gap_spaces _, gap_spaces _,
        by simp, hgap _, fun _ => hgap _, by simp, by simp, fun h => absurd h ha⟩
      simp [layEntry, Grid.layRow, Grid.trimCells, Grid.layCells, Grid.pad, ha]
  · refine ⟨List.replicate (widths.headD 0 - displayWidth name) ' ' ++ [' '],
      List.replicate (widths.tail.headD 0 - displayWidth rawType) ' ' ++ [' '],
      List.replicate (widths.tail.tail.headD 0 - displayWidth attributes) ' ' ++ [' '], ?_, gap_spaces _, gap_spaces _,
      gap_spaces _, hgap _, fun _ => hgap _, fun _ => hgap _, fun h => absurd h hc, fun _ h => absurd h hc⟩
    simp [layEntry, Grid.layRow, Grid.trimCells, Grid.layCells, Grid.pad, hc]

/-! ## Reading a row -/

/-- nothing, or a comment -/
def IsComment (text : List Char) : Prop := text = [] ∨ ∃ rest, text = '/' :: '/' :: rest

section Row

variable {name rawType attributes comment text gap₁ gap₂ gap₃ : List Char}

theorem Row.blanks₁ (h : Row name rawType attributes comment text gap₁ gap₂ gap₃) : ∀ c ∈ gap₁, isBlank c = true :=
  spaces_blank h.spaces₁

theorem Row.blanks₂ (h : Row name rawType attributes comment text gap₁ gap₂ gap₃) : ∀ c ∈ gap₂, isBlank c = true :=
  spaces_blank h.spaces₂

theorem Row.blanks₃ (h : Row name rawType attributes comment text gap₁ gap₂ gap₃) : ∀ c ∈ gap₃, isBlank c = true :=
  spaces_blank h.spaces₃

/-- the code of a row, from the indentation to the attributes -/
def rowCode (name gap₁ rawType gap₂ attributes gap₃ : List Char) : List Char :=
  indent ++ name ++ gap₁ ++ rawType ++ gap₂ ++ attributes ++ gap₃

theorem Row.head_clean (h : Row name rawType attributes comment text gap₁ gap₂ gap₃) (hname : Clean name)
    (htype : Clean rawType) : Clean (indent ++ name ++ gap₁ ++ rawType ++ gap₂) :=
  ((hname.blanks_append indent_blanks).join htype h.blanks₁ h.apart₁).append_blanks h.blanks₂

theorem Row.code_clean (h : Row name rawType attributes comment text gap₁ gap₂ gap₃) (hname : Clean name)
    (htype : Clean rawType) (hattributes : Clean attributes) :
    Clean (rowCode name gap₁ rawType gap₂ attributes gap₃) := by
  unfold rowCode
  by_cases ha : attributes = []
  · subst ha
    rw [List.append_nil]
    exact (h.head_clean hname htype).append_blanks h.blanks₃
  · exact (((hname.blanks_append indent_blanks).join htype h.blanks₁ h.apart₁).join hattributes h.blanks₂
      (h.apart₂ ha)).append_blanks h.blanks₃

/-- **A row is split where it was joined**, when its attributes are clean. -/
theorem Row.splitComment (h : Row name rawType attributes comment text gap₁ gap₂ gap₃) (hname : Clean name)
    (htype : Clean rawType) (hattributes : Clean attributes) (hcomment : IsComment comment) :
    codeOf text = rowCode name gap₁ rawType gap₂ attributes gap₃ ∧ (commentOf? text).getD [] = comment := by
  have hclean := h.code_clean hname htype hattributes
  have htext : text = rowCode name gap₁ rawType gap₂ attributes gap₃ ++ comment := h.eq
  rcases hcomment with rfl | ⟨rest, rfl⟩
  · rw [List.append_nil] at htext
    have hsplit := splitComment_clean hclean
    rw [← htext] at hsplit ⊢
    exact ⟨congrArg Prod.fst hsplit, by rw [commentOf?, hsplit]; rfl⟩
  · have hlast : (rowCode name gap₁ rawType gap₂ attributes gap₃).getLast? ≠ some '/' :=
      append_blanks_last h.blanks₃ (h.apart₃ (by simp))
    have hsplit := splitComment_append (b := '/' :: '/' :: rest) hclean hlast
    rw [← htext] at hsplit
    exact ⟨by rw [Line.codeOf, hsplit]; exact List.append_nil _, by rw [commentOf?, hsplit]; rfl⟩

theorem Row.tokens? (h : Row name rawType attributes comment text gap₁ gap₂ gap₃) (hname : IsToken name)
    (htype : IsToken rawType) {tokens : List (List Char)} (htokens : Line.tokens? attributes = some tokens) :
    Line.tokens? (rowCode name gap₁ rawType gap₂ attributes gap₃) = some (name :: rawType :: tokens) := by
  have hfirst : Line.tokens? (indent ++ name) = some [name] := by
    rw [tokens?_blanks_append indent_blanks, hname.tokens?]
  have hplace : placeAfter .code (indent ++ name) = .code := by
    rw [placeAfter_append, placeAfter_code_blanks indent_blanks, hname.place]
  have hsecond : Line.tokens? (indent ++ name ++ gap₁ ++ rawType) = some [name, rawType] := by
    rw [tokens?_append_blanks_append hplace h.blanks₁ h.apart₁, hfirst, htype.tokens?]
    rfl
  have hplace₂ := placeAfter_of_tokens? hsecond
  have hthird : Line.tokens? (indent ++ name ++ gap₁ ++ rawType ++ gap₂ ++ attributes) =
      some (name :: rawType :: tokens) := by
    by_cases ha : attributes = []
    · subst ha
      cases htokens
      rw [List.append_nil, tokens?_append_blanks hplace₂ h.blanks₂, hsecond]
      rfl
    · rw [tokens?_append_blanks_append hplace₂ h.blanks₂ (h.apart₂ ha), hsecond, htokens]
      rfl
  exact (tokens?_append_blanks (placeAfter_of_tokens? hthird) h.blanks₃).trans hthird

end Row

/-! ## The comment of a line -/

def trailing (line : List Char) : List Char := trimEnd ((commentOf? line).getD [])

/-- a comment keeps its slashes when the blanks at its end go -/
theorem trimEnd_comment (rest : List Char) : trimEnd ('/' :: '/' :: rest) = '/' :: '/' :: trimEnd rest := by
  unfold trimEnd
  rw [trimEndWhile_cons (by decide), trimEndWhile_cons (by decide)]

theorem trailing_isComment (line : List Char) : IsComment (trailing line) := by
  unfold trailing
  cases h : commentOf? line with
  | none => exact Or.inl rfl
  | some comment =>
    obtain ⟨-, -, rest, rfl⟩ := commentOf?_eq_some h
    exact Or.inr ⟨_, trimEnd_comment rest⟩

theorem trailing_tight (line : List Char) : EndsTight (trailing line) := trimEnd_tight _

theorem mem_trailing {line : List Char} {c : Char} (h : c ∈ trailing line) : c ∈ line := by
  obtain ⟨tail, htail, -⟩ := trimEnd_append ((commentOf? line).getD [])
  rw [← codeOf_append line]
  exact List.mem_append_right _ (htail ▸ List.mem_append_left _ h)

/-! ## A field line in columns -/

def rowCells (l : FieldLine) (comment : List Char) : List (List Char) :=
  [l.field.name.toList, l.field.rawType.toList, l.tail, comment]

theorem fieldCells_eq {line : List Char} {l : FieldLine} (h : readField line = .ok l) :
    fieldCells line = .ok (rowCells l (trailing line)) := by
  unfold fieldCells
  rw [h]
  rfl

section FieldRow

variable {line : List Char} {l : FieldLine}

theorem fieldRow (h : readField line = .ok l) (widths : List Nat) (comment : List Char) : ∃ gap₁ gap₂ gap₃,
    Row l.field.name.toList l.field.rawType.toList l.tail comment (layEntry widths (.row (rowCells l comment)))
      gap₁ gap₂ gap₃ := layEntry_row widths _ _ _ (type_piece h).token.1

/-- a row with clean attributes has the tokens of its name, its type and its attributes, and keeps its comment -/
theorem row_clean (h : readField line = .ok l) (hclean : Clean l.tail) {tokens : List (List Char)}
    (htokens : tokens? l.tail = some tokens) (widths : List Nat) :
    let text := layEntry widths (.row (rowCells l (trailing line)))
    tokens? (codeOf text) = some (l.field.name.toList :: l.field.rawType.toList :: tokens) ∧
      trailing text = trailing line := by
  obtain ⟨gap₁, gap₂, gap₃, hrow⟩ := fieldRow h widths (trailing line)
  obtain ⟨hcode, hcomment⟩ :=
    hrow.splitComment (name_piece h).clean (type_piece h).clean hclean (trailing_isComment line)
  refine ⟨?_, ?_⟩
  · rw [hcode]
    exact hrow.tokens? (name_piece h).token (type_piece h).token htokens
  · rw [trailing, hcomment]
    exact trimEnd_eq_self (trailing_tight line)

/-- **A settled field line is read back** from its row, and its comment with it. -/
theorem row_reads (h : readField line = .ok l) (hs : l.Settled) (widths : List Nat) :
    let text := layEntry widths (.row (rowCells l (trailing line)))
    readField text = .ok l ∧ trailing text = trailing line := by
  obtain ⟨hclean, tokens, htokens, hread⟩ := (settled_iff h).1 hs
  obtain ⟨hcode, hcomment⟩ := row_clean h hclean htokens widths
  exact ⟨(readField_of_tokens hcode).trans hread, hcomment⟩

theorem tail_tight (h : readField line = .ok l) : EndsTight l.tail := by
  refine joinTokens_tight fun t ht => ?_
  rcases List.mem_append.1 ht with ht | ht
  · have := (readField_pieces h t (List.mem_cons_of_mem _ (List.mem_cons_of_mem _ ht))).token
    exact ⟨this.1, this.tight⟩
  · cases hc : l.clause with
    | none => rw [hc] at ht; cases ht
    | some c =>
      rw [hc, Option.map_some, Option.toList_some, List.mem_singleton] at ht
      exact ht ▸ written_tight c

theorem row_tight (h : readField line = .ok l) (widths : List Nat) {comment : List Char}
    (hcomment : EndsTight comment) : EndsTight (layEntry widths (.row (rowCells l comment))) := by
  obtain ⟨gap₁, gap₂, gap₃, hrow⟩ := fieldRow h widths comment
  rw [hrow.eq]
  by_cases hc : comment = []
  · rw [hc, hrow.close₃ hc, List.append_nil, List.append_nil]
    by_cases ha : l.tail = []
    · rw [ha, hrow.close₂ ha hc, List.append_nil, List.append_nil]
      exact (type_piece h).token.tight.append (type_piece h).token.1
    · exact (tail_tight h).append ha
  · exact hcomment.append hc

theorem row_shape (h : readField line = .ok l) (widths : List Nat) (comment : List Char) :
    shape (layEntry widths (.row (rowCells l comment))) = .field := by
  obtain ⟨gap₁, gap₂, gap₃, hrow⟩ := fieldRow h widths comment
  have hname := readField_name h
  have hhead := (name_piece h).token.head
  rw [hrow.eq]
  generalize l.field.name.toList = name at hname hhead
  match name, hname with
  | c :: rest, hname =>
    simp only [isIdentifier, Bool.and_eq_true, Bool.or_eq_true, decide_eq_true_eq] at hname
    have hother : ∀ d, isLetter d = false → d ≠ '_' → c ≠ d := by
      rintro d hletter hline rfl
      rcases hname.1 with h | h
      · rw [h] at hletter; cases hletter
      · exact hline h
    simp only [List.append_assoc, List.cons_append]
    exact shape_indented (hhead c rfl) (hother _ (by decide) (by decide)) (hother _ (by decide) (by decide))
      (hother _ (by decide) (by decide)) _

theorem row_name (h : readField line = .ok l) {widths : List Nat} {comment text : List Char}
    (htext : text = layEntry widths (.row (rowCells l comment))) {l' : FieldLine} (h' : readField text = .ok l') :
    l'.field.name = l.field.name := by
  obtain ⟨gap₁, gap₂, gap₃, hrow⟩ := fieldRow h widths comment
  rw [← htext] at hrow
  have hclean : Clean (indent ++ l.field.name.toList) := (name_piece h).clean.blanks_append indent_blanks
  have hfirst : tokens? (indent ++ l.field.name.toList) = some [l.field.name.toList] := by
    rw [tokens?_blanks_append indent_blanks, (name_piece h).token.tokens?]
  -- the code after the name and its blanks is read on its own
  obtain ⟨rest, hrest⟩ : ∃ rest, text = indent ++ l.field.name.toList ++ gap₁ ++ rest :=
    ⟨l.field.rawType.toList ++ (gap₂ ++ (l.tail ++ (gap₃ ++ comment))), by simp only [hrow.eq, List.append_assoc]⟩
  have hcode : codeOf text = indent ++ l.field.name.toList ++ gap₁ ++ codeOf rest := by
    rw [hrest, codeOf,
      splitComment_append (hclean.append_blanks hrow.blanks₁) (append_blanks_last hrow.blanks₁ hrow.apart₁)]
  obtain ⟨name, rawType, attributes, clause, htokens, -, -, hfield, -, -⟩ := readField_ok h'
  rw [hcode, tokens?_append_blanks_append hclean.place hrow.blanks₁ hrow.apart₁, hfirst] at htokens
  obtain ⟨tokens, -, htokens⟩ := Option.map_eq_some_iff.1 htokens
  have hname : l.field.name.toList = name := (List.cons.inj htokens).1
  rw [hfield]
  exact (congrArg String.ofList hname.symm).trans String.ofList_toList

/-- a clause is made of the characters of its line and of the spaces between tokens -/
theorem clause_drawnFrom (h : readField line = .ok l) {c : Clause} (hc : l.clause = some c) :
    ∃ text, c.DrawnFrom text ∧ ∀ x ∈ text, x = ' ' ∨ x ∈ line := by
  obtain ⟨name, rawType, attributes, clause, htokens, -, hclause, -, hl, -⟩ := readField_ok h
  rw [hl] at hc
  split at hc
  · subst hc
    cases hs : (splitAttributes attributes).2 with
    | none => rw [hs, Option.mapM_none] at hclause; cases hclause
    | some tokens =>
      rw [hs, Option.mapM_some] at hclause
      cases hr : readClause (joinTokens tokens) with
      | error e => rw [hr] at hclause; cases hclause
      | ok c' =>
        rw [hr] at hclause
        cases hclause
        refine ⟨_, readClause_drawnFrom hr, fun x hx => ?_⟩
        rcases mem_joinTokens hx with hx | ⟨t, ht, hx⟩
        · exact Or.inl hx
        · have hmem := List.mem_cons_of_mem name (List.mem_cons_of_mem rawType (mem_clauseTokens hs ht))
          obtain ⟨-, hpart, -⟩ := tokens?_spec htokens t hmem
          rw [← codeOf_append line]
          exact Or.inr (List.mem_append_left _ (hpart.subset hx))
  · cases hc

theorem newline_not_mem_row (h : readField line = .ok l) (hline : '\n' ∉ line) (widths : List Nat) :
    '\n' ∉ layEntry widths (.row (rowCells l (trailing line))) := by
  have hpiece : ∀ {t}, Piece line t → '\n' ∉ t := fun hp hm => hline (hp.part.subset hm)
  have htail : '\n' ∉ l.tail := by
    intro hm
    rcases mem_joinTokens hm with hm | ⟨t, ht, hm⟩
    · cases hm
    rcases List.mem_append.1 ht with ht | ht
    · exact hpiece (attribute_piece h ht) hm
    · cases hc : l.clause with
      | none => rw [hc] at ht; cases ht
      | some c =>
        rw [hc, Option.map_some, Option.toList_some, List.mem_singleton] at ht
        obtain ⟨text, hdrawn, htext⟩ := clause_drawnFrom h hc
        refine newline_not_mem_written hdrawn (fun hx => ?_) (ht ▸ hm)
        rcases htext _ hx with hx | hx
        · cases hx
        · exact hline hx
  intro hm
  rcases List.mem_append.1 hm with hm | hm
  · exact absurd hm (by decide)
  rcases Grid.mem_layRow hm with hm | ⟨cell, hcell, hm⟩
  · cases hm
  · simp only [rowCells, List.mem_cons, List.not_mem_nil, or_false] at hcell
    rcases hcell with rfl | rfl | rfl | rfl
    · exact hpiece (name_piece h) hm
    · exact hpiece (type_piece h) hm
    · exact htail hm
    · exact hline (mem_trailing hm)

theorem steady_clean {text : List Char} (h : readField text = .ok l) (htight : EndsTight text) {widths : List Nat}
    (hsteady : layEntry widths (.row (rowCells l (trailing text))) = text) : Clean l.tail ∧
      ∀ tokens, tokens? l.tail = some tokens →
        tokens? (codeOf text) = some (l.field.name.toList :: l.field.rawType.toList :: tokens) := by
  obtain ⟨gap₁, gap₂, gap₃, hrow⟩ := fieldRow h widths (trailing text)
  rw [hsteady] at hrow
  have hcomment : EndsTight ((commentOf? text).getD []) := by
    rw [← codeOf_append text] at htight
    exact htight.suffix
  have hcode : codeOf text = rowCode l.field.name.toList gap₁ l.field.rawType.toList gap₂ l.tail gap₃ := by
    have hwhole := (codeOf_append text).trans hrow.eq
    rw [trailing, trimEnd_eq_self hcomment] at hwhole
    exact List.append_cancel_right hwhole
  refine ⟨?_, ?_⟩
  · have hall := hcode ▸ codeOf_clean h
    unfold rowCode at hall
    rw [List.append_assoc] at hall
    have hrest := hall.right (hrow.head_clean (name_piece h).clean (type_piece h).clean).place
    have hplace := hrest.place
    rw [placeAfter_append] at hplace
    exact hrest.left (placeAfter_eq_code_of_blanks hrow.blanks₃ hplace)
  · intro tokens htokens
    rw [hcode]
    exact hrow.tokens? (name_piece h).token (type_piece h).token htokens

/-- **A row that reads back is settled**: when the field and the clause that are read from a row are those it was
written for, and the row does not change when it is laid out again. -/
theorem settled_of_row (h : readField line = .ok l) {widths widths' : List Nat} {text : List Char}
    (htext : text = layEntry widths (.row (rowCells l (trailing line)))) {l' : FieldLine} (h' : readField text = .ok l')
    (hfield : l'.field = l.field) (hclause : l'.clause = l.clause)
    (hsteady : layEntry widths' (.row (rowCells l' (trailing text))) = text) : l.Settled := by
  have htight : EndsTight text := htext ▸ row_tight h widths (trailing_tight line)
  obtain ⟨hclean', hcode'⟩ := steady_clean h' htight hsteady
  -- both field lines have the clause in common, so the attributes that were written are clean as well
  have hclean : Clean l.tail := tail_clean h fun c hc => clause_clean h' hclean' (hclause.trans hc)
  obtain ⟨tokens, htokens⟩ := tokens?_isSome hclean.place
  obtain ⟨tokens', htokens'⟩ := tokens?_isSome hclean'.place
  obtain ⟨hcode, -⟩ := row_clean h hclean htokens widths
  rw [← htext] at hcode
  -- and the code of the row gives the same tokens for both
  have hsame : tokens' = tokens := by
    have hboth := (hcode' tokens' htokens').symm.trans hcode
    exact (List.cons.inj (List.cons.inj (Option.some.inj hboth)).2).2
  have hl : l' = l := FieldLine.ext_of_tail h h' hfield hclause htokens (hsame ▸ htokens')
  refine (settled_iff h).2 ⟨hclean, tokens, htokens, ?_⟩
  rw [← readField_of_tokens hcode, h', hl]

end FieldRow

end EntityScaffold.Document

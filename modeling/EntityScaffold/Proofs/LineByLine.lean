import EntityScaffold.Proofs.Formatting

/-!
The canonical text line by line. It has the lines of its document, each at its place, and none ends in a blank
(`format_lineByLine`). What becomes of a line is told by its shape and by whether it stands in a model (`Rendered`):
outside models it only loses the blanks at its end; in a model it is indented, written in its plain form with the
comment that trails it, or, a field line, laid out in columns.

The widths of the columns play no part here: however wide they are, name, type and comment stand in this order, with
spaces between them.
-/

namespace EntityScaffold.Line

open Text

/-! ## The trailing comment -/

/-- a comment is found at the same place, whatever it says -/
theorem splitCommentFrom_comment {p : Place} {text code rest : List Char}
    (h : splitCommentFrom p text = (code, some ('/' :: '/' :: rest))) (other : List Char) :
    splitCommentFrom p (code ++ '/' :: '/' :: other) = (code, some ('/' :: '/' :: other)) := by
  induction text generalizing p code with
  | nil => cases h
  | cons c text ih =>
    rw [splitCommentFrom_cons] at h
    split at h
    · next hc =>
      cases h
      rw [List.nil_append, splitCommentFrom_cons, if_pos ⟨hc.1, ⟨other, rfl⟩⟩]
    · next hc =>
      simp only [Prod.mk.injEq] at h
      obtain ⟨rfl, hcomment⟩ := h
      have htext : splitCommentFrom (p.next c) text =
          ((splitCommentFrom (p.next c) text).1, some ('/' :: '/' :: rest)) := Prod.ext rfl hcomment
      obtain ⟨hsplit, -⟩ := splitCommentFrom_some htext
      rw [List.cons_append, splitCommentFrom_cons, ih htext, if_neg]
      -- two slashes at the start would have been found in `text` as well
      rintro ⟨hp, hpre⟩
      refine hc ⟨hp, ?_⟩
      rw [hsplit]
      generalize (splitCommentFrom (p.next c) text).1 = kept at hpre ⊢
      cases kept with
      | nil => exact (List.cons_prefix_cons.1 hpre).1 ▸ ⟨_, rfl⟩
      | cons d kept =>
        simp only [List.cons_append, List.cons_prefix_cons] at hpre ⊢
        exact ⟨hpre.1, hpre.2.1, List.nil_prefix⟩

end EntityScaffold.Line

namespace EntityScaffold.Document

open Text Line

theorem commentOf?_blanks_append {lead : List Char} (h : ∀ c ∈ lead, isBlank c = true) (line : List Char) :
    commentOf? (lead ++ line) = commentOf? line :=
  congrArg (fun split => split.2) (splitComment_append (b := line) (clean_blanks h) (blanks_last h))

theorem commentOf?_trimEnd (line : List Char) : commentOf? (trimEnd line) = (commentOf? line).map trimEnd := by
  cases hc : commentOf? line with
  | none =>
    obtain ⟨tail, htail, -⟩ := trimEnd_append line
    have hline : NoComment .code (trimEnd line ++ tail) := htail ▸ noComment_iff.2 hc
    exact noComment_iff.1 hline.left
  | some comment =>
    obtain ⟨hline, -, rest, rfl⟩ := commentOf?_eq_some hc
    obtain ⟨tail, htail, hblanks⟩ := trimEnd_append ('/' :: '/' :: rest)
    have hkept : trimEnd ('/' :: '/' :: rest) = '/' :: '/' :: trimEnd rest := trimEnd_comment rest
    -- only blanks of the comment are cut off
    have htrimmed : trimEnd line = codeOf line ++ '/' :: '/' :: trimEnd rest := by
      have htight : EndsTight (codeOf line ++ '/' :: '/' :: trimEnd rest) :=
        (hkept ▸ trimEnd_tight _ : EndsTight ('/' :: '/' :: trimEnd rest)).append (List.cons_ne_nil _ _)
      nth_rewrite 1 [hline]
      rw [htail, hkept, ← List.append_assoc, trimEnd_append_blanks _ hblanks, trimEnd_eq_self htight]
    have hfound : splitComment line = (codeOf line, some ('/' :: '/' :: rest)) := Prod.ext rfl hc
    have hsplit := splitCommentFrom_comment hfound (trimEnd rest)
    rw [htrimmed, commentOf?, splitComment, hsplit, Option.map_some, hkept]

/-- a trimmed line has the comment of the line, without the blanks at its end -/
theorem commentOf?_trim (line : List Char) : commentOf? (trim line) = (commentOf? line).map trimEnd := by
  obtain ⟨lead, hlead, hblanks⟩ := trimStart_append line
  rw [trim, commentOf?_trimEnd]
  nth_rewrite 2 [hlead]
  rw [commentOf?_blanks_append hblanks]

/-- a text followed by the comment that trails a line, which ends without blanks -/
def withComment (text line : List Char) : List Char :=
  match commentOf? line with
  | none => text
  | some comment => text ++ ' ' :: trimEnd comment

theorem delimiter_eq (text line : List Char) : delimiter text line = withComment text line := by
  unfold delimiter withComment
  rw [commentOf?_trim]
  cases commentOf? line <;> rfl

/-! ## One line -/

/-- a field line and its row: two spaces, the name, spaces, and the type, both as the first tokens of the line say;
then nothing or a space, and at the end the comment of the line -/
def RowOf (line out : List Char) : Prop :=
  ∃ name rawType attributes gap rest, tokens? (codeOf line) = some (name :: rawType :: attributes) ∧
    out = [' ', ' '] ++ name ++ gap ++ rawType ++ rest ∧ gap ≠ [] ∧ (∀ c ∈ gap, c = ' ') ∧
    (∀ c, rest.head? = some c → c = ' ') ∧ ∀ comment, commentOf? line = some comment → trimEnd comment <:+ rest

/-- what a line of a document becomes in its canonical text, `inside` telling whether it stands in a model -/
structure Rendered (inside : Bool) (line out : List Char) : Prop where
  outside : inside = false → (∀ name, shape line ≠ .opening .model name) → out = trimEnd line
  otherBlock : ∀ k name, shape line = .opening k name → k ≠ .model → out = trimEnd line
  other : inside = true → shape line = .other → out = trimEnd line
  indented : inside = true → shape line = .comment ∨ shape line = .directive → out = [' ', ' '] ++ trim line
  blank : inside = true → shape line = .blank → out = []
  opening : ∀ name, shape line = .opening .model name →
    out = withComment ("model ".toList ++ name.toList ++ " \x7b".toList) line
  closing : inside = true → shape line = .closing → out = withComment ['\x7d'] line
  field : inside = true → shape line = .field → RowOf line out

theorem row_rowOf {line : List Char} {l : FieldLine} (h : readField line = .ok l) (widths : List Nat) :
    RowOf line (layEntry widths (.row (rowCells l (trailing line)))) := by
  obtain ⟨name, rawType, attributes, clause, htokens, -, -, hfield, -, -⟩ := readField_ok h
  have hname : l.field.name.toList = name := by rw [hfield]; exact String.toList_ofList
  have htype : l.field.rawType.toList = rawType := by rw [hfield]; exact String.toList_ofList
  obtain ⟨gap₁, gap₂, gap₃, hrow⟩ := fieldRow h widths (trailing line)
  refine ⟨name, rawType, attributes, gap₁, gap₂ ++ l.tail ++ gap₃ ++ trailing line, htokens, ?_, hrow.apart₁,
    hrow.spaces₁, ?_, ?_⟩
  · rw [hrow.eq, hname, htype]
    simp only [indent, List.append_assoc]
  · -- the first of the texts after the type that is not empty is a gap
    intro c hc
    cases hgap₂ : gap₂ with
    | cons d gap =>
      rw [hgap₂] at hc
      exact hrow.spaces₂ c (by rw [hgap₂, ← Option.some.inj hc]; exact List.mem_cons_self)
    | nil =>
      have htail : l.tail = [] := by
        by_contra hne
        exact hrow.apart₂ hne hgap₂
      cases hgap₃ : gap₃ with
      | cons d gap =>
        rw [hgap₂, htail, hgap₃] at hc
        exact hrow.spaces₃ c (by rw [hgap₃, ← Option.some.inj hc]; exact List.mem_cons_self)
      | nil =>
        have hcomment : trailing line = [] := by
          by_contra hne
          exact hrow.apart₃ hne hgap₃
        rw [hgap₂, htail, hgap₃, hcomment] at hc
        cases hc
  · intro comment hcomment
    rw [trailing, hcomment]
    exact List.suffix_append _ _

/-- **Each line is rendered** by its shape and its place, whatever the widths of the columns are. -/
theorem laidLine_rendered {columns : Option (List Nat)} {line : List Char}
    (hread : columns.isSome = true → shape line = .field → ∃ l, readField line = .ok l) :
    Rendered columns.isSome line (laidLine columns line) := by
  have hentry : columns.isSome = true → StaysInBlock line →
      ∃ widths, laidLine columns line = layEntry widths (entryOf line) := by
    intro hc hs
    obtain ⟨widths, rfl⟩ := Option.isSome_iff_exists.1 hc
    exact ⟨widths, hs.laidLine_some widths⟩
  refine ⟨fun hc hs => ?_, fun k name hs hk => ?_, fun hc hs => ?_, fun hc hs => ?_, fun hc hs => ?_,
    fun name hs => ?_, fun hc hs => ?_, fun hc hs => ?_⟩
  · obtain rfl : columns = none := by simpa using hc
    by_cases hopen : ∃ k name, shape line = .opening k name
    · obtain ⟨k, name, hopen⟩ := hopen
      have hk : k ≠ .model := fun hk => hs name (hk ▸ hopen)
      rw [laidLine_opening hopen, if_neg hk]
    · exact laidLine_none fun k name h => hopen ⟨k, name, h⟩
  · rw [laidLine_opening hs, if_neg hk]
  · obtain ⟨widths, hlaid⟩ := hentry hc (by simp [StaysInBlock, hs])
    rw [hlaid, entryOf_other hs, layEntry]
  · have hstays : StaysInBlock line := by rcases hs with hs | hs <;> simp [StaysInBlock, hs]
    obtain ⟨widths, hlaid⟩ := hentry hc hstays
    rw [hlaid, entryOf_indented hs, layEntry]
    rfl
  · obtain ⟨widths, hlaid⟩ := hentry hc (by simp [StaysInBlock, hs])
    rw [hlaid, entryOf_blank hs, layEntry]
  · rw [laidLine_opening hs, if_pos rfl, modelLine, delimiter_eq]
  · obtain ⟨widths, rfl⟩ := Option.isSome_iff_exists.1 hc
    rw [laidLine_closing hs, delimiter_eq]
  · obtain ⟨widths, hlaid⟩ := hentry hc (by simp [StaysInBlock, hs])
    obtain ⟨l, hl⟩ := hread hc hs
    rw [hlaid, entryOf_field hs hl]
    exact row_rowOf hl widths

/-! ## All lines -/

theorem length_laid (columns : Option (List Nat)) (lines : List (List Char)) :
    (laid columns lines).length = lines.length := by
  induction lines generalizing columns with
  | nil => rfl
  | cons line rest ih => rw [laid, List.length_cons, List.length_cons, ih]

/-- the line numbered `i`, from zero, is rendered at its place -/
theorem laid_rendered {lines : List (List Char)} (hread : ∀ line ∈ modelFields false lines, ∃ l, readField line = .ok l)
    {i : Nat} {line : List Char} (h : lines[i]? = some line) :
    ∃ out, (laid none lines)[i]? = some out ∧ Rendered ((lines.take i).foldl insideAfter false) line out := by
  obtain ⟨hi, hget⟩ := List.getElem?_eq_some_iff.1 h
  have hlines : lines = lines.take i ++ line :: lines.drop (i + 1) := by
    rw [← hget, ← List.drop_eq_getElem_cons hi, List.take_append_drop]
  obtain ⟨before, columns, after, hlaid, hlength, hcolumns⟩ := laid_split (lines.take i) line (lines.drop (i + 1)) none
  have hinside : columns.isSome = (lines.take i).foldl insideAfter false := hcolumns
  rw [← hlines] at hlaid
  refine ⟨laidLine columns line, ?_, hinside ▸ laidLine_rendered fun hc hs => hread line ?_⟩
  · have hplace : before.length = i := by rw [hlength, List.length_take_of_le (Nat.le_of_lt hi)]
    rw [hlaid, ← hplace, List.getElem?_append_right (le_refl _), Nat.sub_self]
    rfl
  · rw [hlines]
    exact mem_modelFields_of_inside (hinside ▸ hc) hs

/-- **The canonical text keeps a document line by line.** A document that is read can be formatted; its canonical text
has as many lines, each ended by a line feed and none ending in a blank, and each line is rendered at its place. -/
theorem format_lineByLine {source : String} {o : Outcome} (h : read false source = .ok o) :
    ∃ text, format source = .ok text ∧
      (splitLines text.toList).length = (splitLines source.toList).length ∧
      text.toList = joinLines (splitLines text.toList) ∧ (∀ out ∈ splitLines text.toList, EndsTight out) ∧
      ∀ i line, (splitLines source.toList)[i]? = some line → ∃ out, (splitLines text.toList)[i]? = some out ∧
        Rendered (((splitLines source.toList).take i).foldl insideAfter false) line out := by
  have hlines : splitLines (canonical source).toList = laid none (splitLines source.toList) := splitLines_canonical h
  have hisLine : ∀ out ∈ laid none (splitLines source.toList), IsLine out :=
    laid_isLine (newline_not_mem_splitLines _) (read_reads h)
  refine ⟨canonical source, format_laid h, ?_, ?_, fun out hout => (hisLine out (hlines ▸ hout)).2,
    fun i line hline => ?_⟩
  · rw [hlines, length_laid]
  · rw [hlines, canonical, String.toList_ofList]
  · rw [hlines]
    exact laid_rendered (read_reads h) hline

def mixedSource : String :=
  "enum Role \x7b  \n  USER \n\x7d\nmodel Draft\x7b\n id\nmodel  User \x7b //  all \n\tid Int @id  // key \n\n" ++
    "   // note\n @@index([id])  \nstray  \n \x7d// end\n"

/-- every line is kept, the second model is opened and closed in plain form, and its field stands in columns -/
theorem format_lineByLine_mixedSource : ∃ text, format mixedSource = .ok text ∧ (splitLines text.toList).length = 12 ∧
    (splitLines text.toList)[5]? = some "model User \x7b //  all".toList ∧
    (∃ out, (splitLines text.toList)[6]? = some out ∧ RowOf "\tid Int @id  // key ".toList out) ∧
    (splitLines text.toList)[11]? = some "\x7d // end".toList := by
  have hok : (read false mixedSource).toOption.isSome = true := by decide +kernel
  have hcut : splitLines mixedSource.toList = ["enum Role \x7b  ".toList, "  USER ".toList, "\x7d".toList,
      "model Draft\x7b".toList, " id".toList, "model  User \x7b //  all ".toList, "\tid Int @id  // key ".toList, [],
      "   // note".toList, " @@index([id])  ".toList, "stray  ".toList, " \x7d// end".toList] := by decide +kernel
  cases hread : read false mixedSource with
  | error e => rw [hread] at hok; cases hok
  | ok o =>
    obtain ⟨text, hformat, hlength, -, -, hlines⟩ := format_lineByLine hread
    rw [hcut] at hlength hlines
    obtain ⟨opened, hopened, hmodel⟩ := hlines 5 _ rfl
    obtain ⟨field, hfield, hrow⟩ := hlines 6 _ rfl
    obtain ⟨closed, hclosed, hbrace⟩ := hlines 11 _ rfl
    refine ⟨text, hformat, hlength, ?_, ⟨field, hfield, hrow.field (by decide +kernel) (by decide +kernel)⟩, ?_⟩
    · rw [hopened, hmodel.opening "User" (by decide +kernel)]
      decide +kernel
    · rw [hclosed, hbrace.closing (by decide +kernel) (by decide +kernel)]
      decide +kernel

end EntityScaffold.Document

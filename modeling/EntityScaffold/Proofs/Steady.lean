import EntityScaffold.Proofs.RoundTrip

/-!
What a round trip says of a document. When a document and its canonical text are read alike and the canonical text
does not change, every line of the document is settled (`settled_of_roundTrip`). The reader accounts for every model
that was opened (`read_accounted`), so the openings are found again in the canonical text; then each field line and
its row stand in the same model, have the same name, and are the same field (`FieldOf.unique`).

A model that is never closed leaves nothing in the schema, so its field lines are not compared at all.
-/

namespace EntityScaffold.Document

open Text Line

/-! ## Every opened model is accounted for -/

/-- a model that was opened is in the schema, was noted as never closed, or is the open one -/
def Accounted (lines : List (List Char)) (r : Reader) : Prop :=
  ∀ n name, OpensModel lines n name → (∃ e ∈ r.schema.entities, e.line = n ∧ e.name = name) ∨
    .unclosedEntity n name ∈ r.problems ∨ ∃ d, r.block = .model d ∧ d.entity.line = n ∧ d.entity.name = name

theorem opensModel_at {before after : List (List Char)} {line : List Char} {name : String} :
    OpensModel (before ++ line :: after) (before.length + 1) name ↔ shape line = .opening .model name := by
  have hget : (before ++ line :: after)[before.length]? = some line := by simp
  unfold OpensModel
  simp only [List.mk_mem_zipIdx_iff_le_and_getElem?_sub, Nat.add_sub_cancel, hget]
  constructor
  · rintro ⟨x, ⟨-, hx⟩, hs⟩
    cases hx
    exact hs
  · intro hs
    exact ⟨line, ⟨Nat.le_add_left 1 _, rfl⟩, hs⟩

theorem opensModel_snoc {lines : List (List Char)} {line : List Char} {n : Nat} {name : String}
    (h : OpensModel (lines ++ [line]) n name) :
    OpensModel lines n name ∨ n = lines.length + 1 ∧ shape line = .opening .model name := by
  obtain ⟨x, hx, hs⟩ := h
  rw [List.zipIdx_append] at hx
  rcases List.mem_append.1 hx with hx | hx
  · exact Or.inl ⟨x, hx, hs⟩
  · rw [List.zipIdx_singleton, List.mem_singleton] at hx
    cases hx
    exact Or.inr ⟨Nat.add_comm _ _, hs⟩

theorem draft_add_entity (d : Draft) (l : FieldLine) :
    (d.add l).entity.line = d.entity.line ∧ (d.add l).entity.name = d.entity.name := by
  obtain ⟨f, more, hadd, -⟩ := draft_add d l
  rw [hadd]
  exact ⟨rfl, rfl⟩

/-- what was accounted for stays accounted for, line by line -/
theorem step_accounted {strict : Bool} {lines : List (List Char)} {r r' : Reader} {line : List Char}
    (h : step strict r (line, lines.length + 1) = .ok r') (hi : Accounted lines r) :
    Accounted (lines ++ [line]) r' := by
  intro n name hopens
  have hline : ∀ k name', shape line = .opening k name' → n = lines.length + 1 → shape line = .opening .model name →
      ∃ d, openBlock k name' (lines.length + 1) = .model d ∧ d.entity.line = n ∧ d.entity.name = name := by
    intro k name' hk hn hs
    rw [hk] at hs
    cases hs
    exact ⟨_, rfl, hn.symm, rfl⟩
  rcases opensModel_snoc hopens with hopens | ⟨hn, hs⟩
  · rcases hi n name hopens with ⟨e, he, hkey⟩ | hproblem | ⟨d, hd, hkey⟩
    · left
      cases step_effect h with
      | opens k name' hshape hblock => exact ⟨e, by rw [declareEnum_entities]; exact he, hkey⟩
      | drops k name' d hs hshape hblock => exact ⟨e, by rw [declareEnum_entities]; exact he, hkey⟩
      | commits d hshape hblock => exact ⟨e, List.mem_append_left _ he, hkey⟩
      | _ => exact ⟨e, he, hkey⟩
    · right; left
      cases step_effect h with
      | stray hs hblock hshape => exact List.mem_append_left _ hproblem
      | drops k name' d hs hshape hblock => exact List.mem_append_left _ hproblem
      | _ => exact hproblem
    · cases step_effect h with
      | idle hclosing hopening hfield => exact Or.inr (Or.inr ⟨d, hd, hkey⟩)
      | stray hs hblock hshape => rw [hblock] at hd; cases hd
      | opens k name' hshape hblock => exact absurd hd (hblock d)
      | drops k name' d' hs hshape hblock =>
        rw [hblock] at hd
        cases hd
        exact Or.inr (Or.inl (List.mem_append_right _ (by rw [hkey.1, hkey.2]; exact List.mem_singleton_self _)))
      | commits d' hshape hblock =>
        rw [hblock] at hd
        cases hd
        exact Or.inl ⟨_, List.mem_append_right _ (List.mem_singleton_self _), hkey⟩
      | leaves hshape hblock => exact absurd hd (hblock d)
      | adds d' l hshape hblock hline hnew =>
        rw [hblock] at hd
        cases hd
        obtain ⟨h1, h2⟩ := draft_add_entity d l
        exact Or.inr (Or.inr ⟨_, rfl, h1.trans hkey.1, h2.trans hkey.2⟩)
  · right; right
    cases step_effect h with
    | idle hclosing hopening hfield => exact absurd hs (hopening _ _)
    | stray hstrict hblock hshape => rw [hs] at hshape; simp at hshape
    | opens k name' hshape hblock => exact hline k name' hshape hn hs
    | drops k name' d hstrict hshape hblock => exact hline k name' hshape hn hs
    | commits d hshape hblock => rw [hs] at hshape; cases hshape
    | leaves hshape hblock => rw [hs] at hshape; cases hshape
    | adds d l hshape hblock hline hnew => rw [hs] at hshape; cases hshape

theorem run_accounted {strict : Bool} {rest lines : List (List Char)} {r r' : Reader}
    (h : run strict r (rest.zipIdx (lines.length + 1)) = .ok r') (hi : Accounted lines r) :
    Accounted (lines ++ rest) r' := by
  induction rest generalizing lines r with
  | nil => cases h; rwa [List.append_nil]
  | cons line rest ih =>
    obtain ⟨r₁, hstep, hrun⟩ := run_cons_ok h
    have hrest : run strict r₁ (rest.zipIdx ((lines ++ [line]).length + 1)) = .ok r' := by
      rw [List.length_append]
      exact hrun
    rw [List.append_cons]
    exact ih hrest (step_accounted hstep hi)

/-- **No model is lost.** Every model that a document opens is in the schema or was noted as never closed. -/
theorem read_accounted {strict : Bool} {source : String} {o : Outcome} (h : read strict source = .ok o) {n : Nat}
    {name : String} (hopens : OpensModel (splitLines source.toList) n name) :
    (∃ e ∈ o.schema.entities, e.line = n ∧ e.name = name) ∨ .unclosedEntity n name ∈ o.problems := by
  obtain ⟨r, r', hr, ha, rfl⟩ := read_ok h
  have hrun : run strict .start ((splitLines source.toList).zipIdx (([] : List (List Char)).length + 1)) = .ok r := hr
  have hstart : Accounted [] .start := by
    rintro n name ⟨line, hline, -⟩
    cases hline
  have hschema := abandon_schema ha
  rcases run_accounted hrun hstart n name hopens with ⟨e, he, hkey⟩ | hproblem | ⟨d, hd, hkey⟩
  · exact Or.inl ⟨e, hschema ▸ he, hkey⟩
  · right
    unfold Reader.abandon at ha
    split at ha
    · rw [(note_ok ha).2]; exact List.mem_append_left _ hproblem
    · cases ha; exact hproblem
  · right
    rw [Reader.abandon, hd] at ha
    rw [(note_ok ha).2, hkey.1, hkey.2]
    exact List.mem_append_right _ (List.mem_singleton_self _)

/-! ## One field, two lines -/

/-- a relation shows the whole clause that declares it -/
theorem relationOf_injective {f : Field} {c c' : Clause} (h : relationOf f c = relationOf f c') : c = c' := by
  simp only [relationOf, Relation.mk.injEq] at h
  obtain ⟨hname, -, -, hfields, hreferences, hrestrictions, -, -⟩ := h
  cases c
  cases c'
  simp_all

/-- **A field has one line.** Two lines that one field of a schema was read from say the same: the same field, and the
same clause. -/
theorem FieldOf.unique {relations : List Relation} {f : Field} {a b : List Char} (ha : FieldOf relations f a)
    (hb : FieldOf relations f b) {l l' : FieldLine} (hl : readField a = .ok l) (hl' : readField b = .ok l') :
    l'.field = l.field ∧ l'.clause = l.clause := by
  obtain ⟨_, hread, hf, hlink⟩ := ha
  obtain ⟨_, hread', hf', hlink'⟩ := hb
  rw [hl] at hread
  rw [hl'] at hread'
  cases hread
  cases hread'
  have hboth : { l'.field with link := f.link } = { l.field with link := f.link } := hf'.symm.trans hf
  have hrelation : l'.field.isRelation = l.field.isRelation := by
    have := congrArg Field.isRelation hboth
    rwa [withLink_isRelation, withLink_isRelation] at this
  have hfield : l'.field = l.field := by
    have hsame : l'.field.link = l.field.link := by rw [readField_link hl, readField_link hl', hrelation]
    calc l'.field = { { l'.field with link := f.link } with link := l.field.link } := by rw [← hsame]
      _ = { { l.field with link := f.link } with link := l.field.link } := by rw [hboth]
      _ = l.field := rfl
  refine ⟨hfield, ?_⟩
  -- a bound link comes with a clause, the link of a line without clause is never bound
  have hunbound : ∀ i, l.field.link ≠ .bound i := by
    intro i h
    rw [readField_link hl] at h
    split at h <;> cases h
  cases hc : l.clause with
  | none =>
    cases hc' : l'.clause with
    | none => rfl
    | some c' =>
      simp only [hc] at hlink
      simp only [hc'] at hlink'
      obtain ⟨i, hi, -⟩ := hlink'
      exact absurd (hlink.symm.trans hi) (hunbound i)
  | some c =>
    simp only [hc] at hlink
    obtain ⟨i, hi, hrel⟩ := hlink
    cases hc' : l'.clause with
    | none =>
      simp only [hc', hfield] at hlink'
      exact absurd (hlink'.symm.trans hi) (hunbound i)
    | some c' =>
      simp only [hc', hfield] at hlink'
      obtain ⟨j, hj, hrel'⟩ := hlink'
      rw [hi] at hj
      cases hj
      rw [hrel] at hrel'
      rw [relationOf_injective (Option.some.inj hrel')]

/-! ## Lines at their place -/

theorem laid_shapes {lines : List (List Char)} {columns : Option (List Nat)}
    (hopenings : ∀ line ∈ lines, ∀ name, shape line = .opening .model name → SettledOpening name line)
    (hread : ∀ line ∈ modelFields columns.isSome lines, ∃ l, readField line = .ok l) :
    (laid columns lines).map shape = lines.map shape := by
  induction lines generalizing columns with
  | nil => rfl
  | cons line rest ih =>
    rw [laid, List.map_cons, List.map_cons]
    congr 1
    · refine shape_laidLine (hopenings line List.mem_cons_self) ?_
      intro hc hs
      refine hread line ?_
      rw [hc]
      exact modelFields_head hs
    · refine ih (fun x hx => hopenings x (List.mem_cons_of_mem _ hx)) ?_
      intro x hx
      rw [columnsAfter_isSome] at hx
      exact hread x (modelFields_rest hx)

theorem insideAfter_congr {a b : List Char} (h : shape a = shape b) (inside : Bool) :
    insideAfter inside a = insideAfter inside b := by
  unfold insideAfter
  rw [h]

theorem foldl_insideAfter_congr {as bs : List (List Char)} (h : as.map shape = bs.map shape) (inside : Bool) :
    as.foldl insideAfter inside = bs.foldl insideAfter inside := by
  induction as generalizing bs inside with
  | nil =>
    obtain rfl := List.map_eq_nil_iff.1 h.symm
    rfl
  | cons a as ih =>
    obtain ⟨b, bs, rfl, hb, hbs⟩ := List.map_eq_cons_iff.1 h.symm
    rw [List.foldl_cons, List.foldl_cons, insideAfter_congr hb.symm, ih hbs.symm]

theorem mem_modelFields {lines : List (List Char)} {inside : Bool} {line : List Char}
    (h : line ∈ modelFields inside lines) : ∃ before after, lines = before ++ line :: after ∧
      before.foldl insideAfter inside = true ∧ shape line = .field := by
  induction lines generalizing inside with
  | nil => cases h
  | cons first rest ih =>
    have hrest : line ∈ modelFields (insideAfter inside first) rest → ∃ before after,
        first :: rest = before ++ line :: after ∧ before.foldl insideAfter inside = true ∧ shape line = .field := by
      intro hm
      obtain ⟨before, after, h1, h2, h3⟩ := ih hm
      exact ⟨first :: before, after, by rw [h1, List.cons_append], h2, h3⟩
    rw [modelFields] at h
    split at h
    · next hc =>
      simp only [Bool.and_eq_true, decide_eq_true_eq] at hc
      rcases List.mem_cons.1 h with rfl | h
      · exact ⟨[], rest, rfl, hc.1, hc.2⟩
      · exact hrest h
    · exact hrest h

theorem last_opening {before : List (List Char)} (h : before.foldl insideAfter false = true) :
    ∃ init opener name body, before = (init ++ [opener]) ++ body ∧ shape opener = .opening .model name ∧
      ∀ line ∈ body, shape line ≠ .closing := by
  induction before using List.reverseRecOn with
  | nil => cases h
  | append_singleton before line ih =>
    rw [List.foldl_append, List.foldl_cons, List.foldl_nil] at h
    rcases opens_or_closes_or_stays line with ⟨k, name, hs⟩ | hs | hs
    · have hk : k = .model := by simpa [insideAfter, hs] using h
      subst hk
      exact ⟨before, line, name, [], by rw [List.append_nil], hs, by simp⟩
    · simp [insideAfter, hs] at h
    · rw [hs.inside] at h
      obtain ⟨init, opener, name, body, rfl, hopener, hbody⟩ := ih h
      refine ⟨init, opener, name, body ++ [line], by rw [List.append_assoc], hopener, ?_⟩
      intro x hx
      rcases List.mem_append.1 hx with hx | hx
      · exact hbody x hx
      · rw [List.mem_singleton.1 hx]; exact hs.1

/-- a field line that follows `start` with no closing line between is a field line of the block opened there -/
theorem mem_fieldLines {start body before after : List (List Char)} {line : List Char}
    (hbody : ∀ x ∈ body, shape x ≠ .closing) (hbefore : before.map shape = (start ++ body).map shape)
    (hs : shape line = .field) : line ∈ fieldLines (before ++ line :: after) start.length := by
  rw [List.map_append] at hbefore
  obtain ⟨start', body', rfl, hstart, hbody'⟩ := List.map_eq_append_iff.1 hbefore
  have hlength : start.length = start'.length := by
    have := congrArg List.length hstart
    simpa using this.symm
  have hpass : ∀ x ∈ body', decide (shape x ≠ .closing) = true := by
    intro x hx
    have hmem : shape x ∈ body.map shape := hbody' ▸ List.mem_map_of_mem hx
    obtain ⟨y, hy, hxy⟩ := List.mem_map.1 hmem
    rw [← hxy]
    simpa using hbody y hy
  unfold fieldLines bodyAfter
  rw [hlength, List.append_assoc, List.drop_left, List.takeWhile_append_of_pos hpass, List.mem_filter]
  refine ⟨List.mem_append_right _ ?_, by simp [hs]⟩
  rw [List.takeWhile_cons_of_pos (by simp [hs])]
  exact List.mem_cons_self

theorem fieldLine_reads {lines : List (List Char)} {s : Schema} (h : SchemaInv lines s) {e : Entity}
    (he : e ∈ s.entities) {line : List Char} (hline : line ∈ fieldLines lines e.line) :
    ∃ l, readField line = .ok l := by
  obtain ⟨f, -, l, hl, -⟩ := forall₂_left (h.written e he).flip hline
  exact ⟨l, hl⟩

/-! ## A round trip settles every line -/

/-- a document whose canonical text is read alike and does not change when it is formatted again -/
structure RoundTrip (source : String) (o : Outcome) : Prop where
  reads : read false source = .ok o
  again : read false (canonical source) = .ok o
  steady : format (canonical source) = .ok (canonical source)

section RoundTrip

variable {source : String} {o : Outcome}

theorem RoundTrip.laid_lines (h : RoundTrip source o) : laid none (splitLines (canonical source).toList) =
    splitLines (canonical source).toList := by
  have hsame : canonical (canonical source) = canonical source :=
    Except.ok.inj ((format_laid h.again).symm.trans h.steady)
  rw [← splitLines_canonical h.again, hsame]

/-- a line stands at its place in the canonical text, and stays there when it is laid out again -/
theorem RoundTrip.aligned (h : RoundTrip source o) {before after : List (List Char)} {line : List Char}
    (hlines : splitLines source.toList = before ++ line :: after) : ∃ before' after' columns columns',
      splitLines (canonical source).toList = before' ++ laidLine columns line :: after' ∧
      before'.length = before.length ∧ columns.isSome = before.foldl insideAfter false ∧
      columns'.isSome = before'.foldl insideAfter false ∧
      laidLine columns' (laidLine columns line) = laidLine columns line := by
  obtain ⟨before', columns, after', h1, h2, h3⟩ := laid_split before line after none
  rw [← hlines, ← splitLines_canonical h.reads] at h1
  obtain ⟨before'', columns', after'', i1, i2, i3⟩ := laid_split before' (laidLine columns line) after' none
  rw [← h1, h.laid_lines, h1] at i1
  obtain ⟨-, htail⟩ := List.append_inj i1 i2.symm
  exact ⟨before', after', columns, columns', h1, h2, h3, i3, (List.cons.inj htail).1.symm⟩

theorem RoundTrip.entity (h : RoundTrip source o) (hclosed : ∀ n name, .unclosedEntity n name ∉ o.problems)
    {before after : List (List Char)} {line : List Char} {name : String}
    (hlines : splitLines source.toList = before ++ line :: after) (hs : shape line = .opening .model name) :
    ∃ e ∈ o.schema.entities, e.line = before.length + 1 ∧ e.name = name := by
  have hopens : OpensModel (splitLines source.toList) (before.length + 1) name := by
    rw [hlines, opensModel_at]
    exact hs
  exact (read_accounted h.reads hopens).resolve_right (hclosed _ _)

theorem RoundTrip.opening (h : RoundTrip source o) (hclosed : ∀ n name, .unclosedEntity n name ∉ o.problems) :
    ∀ line ∈ splitLines source.toList, ∀ name, shape line = .opening .model name → SettledOpening name line := by
  intro line hline name hs
  obtain ⟨before, after, hlines⟩ := List.append_of_mem hline
  obtain ⟨e, he, hn, hname⟩ := h.entity hclosed hlines hs
  obtain ⟨before', after', columns, columns', hlines', hlength, -, -, hsteady⟩ := h.aligned hlines
  -- the schema was read off the canonical text as well, so the same model is opened there
  have hopens := (read_schemaInv h.again).opened e he
  rw [hlines', hn, hname, ← hlength, opensModel_at] at hopens
  rw [laidLine_opening hopens, laidLine_opening hs, if_pos rfl] at hsteady
  exact settledOpening_of_steady hsteady

theorem RoundTrip.shapes (h : RoundTrip source o) (hclosed : ∀ n name, .unclosedEntity n name ∉ o.problems) :
    (splitLines (canonical source).toList).map shape = (splitLines source.toList).map shape := by
  rw [splitLines_canonical h.reads]
  exact laid_shapes (h.opening hclosed) (read_reads h.reads)

/-- field lines of one name in one model are one field, in the document and in its canonical text -/
theorem RoundTrip.same_line (h : RoundTrip source o) {e : Entity} (he : e ∈ o.schema.entities) {a b : List Char}
    (ha : a ∈ fieldLines (splitLines source.toList) e.line)
    (hb : b ∈ fieldLines (splitLines (canonical source).toList) e.line) {l l' : FieldLine} (hl : readField a = .ok l)
    (hl' : readField b = .ok l') (hname : l'.field.name = l.field.name) :
    l'.field = l.field ∧ l'.clause = l.clause := by
  have hinv := read_schemaInv h.reads
  obtain ⟨f, hf, (hfield : FieldOf o.schema.relations f a)⟩ := forall₂_left (hinv.written e he).flip ha
  obtain ⟨f', hf', (hfield' : FieldOf o.schema.relations f' b)⟩ :=
    forall₂_left ((read_schemaInv h.again).written e he).flip hb
  have hsame : f.name = f'.name := by rw [hfield.name hl, hfield'.name hl', hname]
  obtain rfl : f = f' := List.inj_on_of_nodup_map (hinv.names e he) hf hf' hsame
  exact hfield.unique hfield' hl hl'

theorem RoundTrip.field (h : RoundTrip source o) (hclosed : ∀ n name, .unclosedEntity n name ∉ o.problems) :
    ∀ line ∈ modelFields false (splitLines source.toList), ∃ l, readField line = .ok l ∧ l.Settled := by
  intro line hline
  obtain ⟨l, hl⟩ := read_reads h.reads line hline
  refine ⟨l, hl, ?_⟩
  obtain ⟨before, after, hlines, hinside, hs⟩ := mem_modelFields hline
  obtain ⟨before', after', columns, columns', hlines', hlength, hcolumns, hcolumns', hsteady⟩ := h.aligned hlines
  have hshapes := h.shapes hclosed
  rw [hlines', hlines, List.map_append, List.map_append] at hshapes
  obtain ⟨hbefore, hrest⟩ := List.append_inj hshapes (by simpa using hlength)
  have hs' : shape (laidLine columns line) = .field := (List.cons.inj hrest).1.trans hs
  have hstays : StaysInBlock line := by simp [StaysInBlock, hs]
  have hstays' : StaysInBlock (laidLine columns line) := by simp [StaysInBlock, hs']
  -- inside a model the line is laid out as a row, both times
  obtain ⟨widths, rfl⟩ := Option.isSome_iff_exists.1 (hcolumns.trans hinside)
  obtain ⟨widths', rfl⟩ : ∃ widths', columns' = some widths' := by
    rw [foldl_insideAfter_congr hbefore, hinside] at hcolumns'
    exact Option.isSome_iff_exists.1 hcolumns'
  have hrow : laidLine (some widths) line = layEntry widths (.row (rowCells l (trailing line))) := by
    rw [hstays.laidLine_some, entryOf_field hs hl]
  -- the line and its row stand in the model that was opened last
  obtain ⟨init, opener, name, body, rfl, hopener, hbody⟩ := last_opening hinside
  have hopens : splitLines source.toList = init ++ opener :: (body ++ line :: after) := by
    rw [hlines]
    simp only [List.append_assoc, List.cons_append, List.nil_append]
  obtain ⟨e, he, hn, -⟩ := h.entity hclosed hopens hopener
  have hstart : e.line = (init ++ [opener]).length := by rw [hn, List.length_append]; rfl
  have hmem : line ∈ fieldLines (splitLines source.toList) e.line := by
    rw [hlines, hstart]
    exact mem_fieldLines hbody rfl hs
  have hmem' : laidLine (some widths) line ∈ fieldLines (splitLines (canonical source).toList) e.line := by
    rw [hlines', hstart]
    exact mem_fieldLines hbody hbefore hs'
  obtain ⟨l', hl'⟩ := fieldLine_reads (read_schemaInv h.again) he hmem'
  obtain ⟨hsame, hclause⟩ := h.same_line he hmem hmem' hl hl' (row_name hl hrow hl')
  rw [hstays'.laidLine_some, entryOf_field hs' hl'] at hsteady
  exact settled_of_row hl hrow hl' hsame hclause hsteady

/-- **A round trip settles a document** in which every model is closed. -/
theorem settled_of_roundTrip (h : RoundTrip source o) (hclosed : ∀ n name, .unclosedEntity n name ∉ o.problems) :
    Settled source := ⟨h.opening hclosed, h.field hclosed⟩

end RoundTrip

/-! ## Main result -/

/-- **Formatting a document.** A document that a lenient reader reads can always be formatted. When it is settled, its
canonical text is read in the same way and does not change when it is formatted again; and these two are said of no
other document in which every model is closed. A plain document is settled. -/
theorem format_roundTrip_iff (source : String) (o : Outcome) (h : read false source = .ok o) :
    ∃ text, format source = .ok text ∧
      (Settled source → read false text = .ok o ∧ format text = .ok text) ∧
      ((∀ n name, .unclosedEntity n name ∉ o.problems) → read false text = .ok o ∧ format text = .ok text →
        Settled source) ∧
      (Plain source → Settled source) := by
  refine ⟨canonical source, format_laid h, ?_, ?_, fun hplain => hplain.settled h⟩
  · intro hs
    have hread := read_canonical h hs
    refine ⟨hread, ?_⟩
    rw [format_laid hread, canonical_canonical h hs]
  · rintro hclosed ⟨hread, hformat⟩
    exact settled_of_roundTrip ⟨h, hread, hformat⟩ hclosed

def untidySource : String :=
  "model  User\x7b // all\n\tid Int @default(1)   @id\n \x7d\nmodel Post \x7b\n" ++
    "  author User? @map(\"a // b\") @relation( fields :[id], references: [id] )\n"

/-- a canonical text that differs from its document is read in the same way and does not change any more -/
theorem format_roundTrip_untidySource : ∃ o text, read false untidySource = .ok o ∧ format untidySource = .ok text ∧
    read false text = .ok o ∧ format text = .ok text := by
  have hok : (read false untidySource).toOption.isSome = true := by decide +kernel
  cases ho : read false untidySource with
  | error e => rw [ho] at hok; cases hok
  | ok o =>
    obtain ⟨text, hformat, hsettled, -⟩ := format_roundTrip_iff untidySource o ho
    obtain ⟨hread, hagain⟩ := hsettled (by decide +kernel)
    exact ⟨o, text, rfl, hformat, hread, hagain⟩

def twoClausesSource : String :=
  "model A \x7b\n  id Int @id\n  author User @relation(\"First\") @relation(\"Second\")\n\x7d\n"

def twoClausesText : String :=
  "model A \x7b\n  id     Int  @id\n  author User @relation(\"Second\") @relation(\"First\")\n\x7d\n"

def relationNames (source : String) : Option (List (Option String)) :=
  (read false source).toOption.map fun o => o.schema.relations.map (·.name)

/-- the first clause of a line is read and the last one written, so formatting gives the relation another name, and
the old name back when it is done again -/
theorem format_swaps_twoClauses : ∃ o, read false twoClausesSource = .ok o ∧
    format twoClausesSource = .ok twoClausesText ∧ read false twoClausesText ≠ .ok o ∧
    format twoClausesText ≠ .ok twoClausesText := by
  have hbefore : relationNames twoClausesSource = some [some "First"] := by decide +kernel
  have hafter : relationNames twoClausesText = some [some "Second"] := by decide +kernel
  have hformat : (format twoClausesSource).toOption = some twoClausesText := by decide +kernel
  have hagain : (format twoClausesText).toOption ≠ some twoClausesText := by decide +kernel
  cases ho : read false twoClausesSource with
  | error e => rw [relationNames, ho] at hbefore; cases hbefore
  | ok o =>
    refine ⟨o, rfl, ?_, ?_, ?_⟩
    · cases hf : format twoClausesSource with
      | error e => rw [hf] at hformat; cases hformat
      | ok text => rw [hf] at hformat; exact congrArg Except.ok (Option.some.inj hformat)
    · intro hread
      rw [relationNames, ho] at hbefore
      rw [relationNames, hread, hbefore] at hafter
      exact absurd hafter (by decide)
    · intro hf
      exact hagain (by rw [hf]; rfl)

end EntityScaffold.Document

import EntityScaffold.Document.Reading
import EntityScaffold.Proofs.FieldLine

/-!
What a document that was read holds. `step_effect` says once what a line can do to the reader; every
invariant below is derived from it, line by line (`step_inv`) and then for a whole run (`run_inv`).

While a model is open its relations are numbered from zero (`DraftInv`); closing it moves them behind
those of the schema (`commit_inv`), and a model that is dropped takes its relations along. Main statement:
`read_wellRead`, every schema that reading returns is `WellRead` off the lines of its document.
-/

namespace EntityScaffold.Document

open Text Line

/-! ## The lines of a model -/

/-- the lines of the block that the line numbered `n` opens, up to the line that closes it -/
def bodyAfter (lines : List (List Char)) (n : Nat) : List (List Char) :=
  (lines.drop n).takeWhile (shape · ≠ .closing)

/-- the field lines of the block that the line numbered `n` opens -/
def fieldLines (lines : List (List Char)) (n : Nat) : List (List Char) :=
  (bodyAfter lines n).filter (shape · = .field)

/-- the line numbered `n` opens a model of this name -/
def OpensModel (lines : List (List Char)) (n : Nat) (name : String) : Prop :=
  ∃ line, (line, n) ∈ lines.zipIdx 1 ∧ shape line = .opening .model name

theorem OpensModel.append {lines : List (List Char)} {n : Nat} {name : String} (h : OpensModel lines n name)
    (more : List (List Char)) : OpensModel (lines ++ more) n name := by
  obtain ⟨line, hline, hshape⟩ := h
  exact ⟨line, by rw [List.zipIdx_append]; exact List.mem_append_left _ hline, hshape⟩

/-- a field as it stands in a schema, and the line it was read from: bound to the relation that the clause
of the line declares, or with the link of a line without clause -/
def FieldOf (relations : List Relation) (f : Field) (line : List Char) : Prop :=
  ∃ l, readField line = .ok l ∧ f = { l.field with link := f.link } ∧
    match l.clause with
    | none => f.link = l.field.link
    | some c => ∃ i, f.link = .bound i ∧ relations[i]? = some (relationOf l.field c)

/-! ## What a line does -/

/-- what the line `line` with the number `n` can do to a reader -/
inductive Effect (strict : Bool) (line : List Char) (n : Nat) (r : Reader) : Reader → Prop where
  /-- nothing: a line outside the grammar of its block, or in a block that is skipped -/
  | idle (hclosing : shape line ≠ .closing) (hopening : ∀ k name, shape line ≠ .opening k name)
      (hfield : shape line = .field → ∀ d, r.block ≠ .model d) : Effect strict line n r r
  /-- a stray line is noted -/
  | stray (hs : strict = false) (hblock : r.block = .outside) (hshape : shape line = .field ∨ shape line = .other) :
      Effect strict line n r { r with problems := r.problems ++ [.orphanField n (shownText line)] }
  /-- a block opens where no model is open -/
  | opens (k : Keyword) (name : String) (hshape : shape line = .opening k name)
      (hblock : ∀ d, r.block ≠ .model d) :
      Effect strict line n r ⟨declareEnum r.schema k name, r.problems, openBlock k name n⟩
  /-- a block opens and the open model is dropped -/
  | drops (k : Keyword) (name : String) (d : Draft) (hs : strict = false) (hshape : shape line = .opening k name)
      (hblock : r.block = .model d) :
      Effect strict line n r
        ⟨declareEnum r.schema k name, r.problems ++ [.unclosedEntity d.entity.line d.entity.name], openBlock k name n⟩
  /-- a model closes and joins the schema -/
  | commits (d : Draft) (hshape : shape line = .closing) (hblock : r.block = .model d) :
      Effect strict line n r ⟨commit r.schema d, r.problems, .outside⟩
  /-- a brace closes a skipped block or none -/
  | leaves (hshape : shape line = .closing) (hblock : ∀ d, r.block ≠ .model d) :
      Effect strict line n r { r with block := .outside }
  /-- a field joins the open model -/
  | adds (d : Draft) (l : FieldLine) (hshape : shape line = .field) (hblock : r.block = .model d)
      (hline : readField line = .ok l) (hnew : (d.entity.field? l.field.name).isSome = false) :
      Effect strict line n r { r with block := .model (d.add l) }

theorem draft_readField_ok {d d' : Draft} {line : List Char} {n : Nat} (h : d.readField line n = .ok d') :
    ∃ l, Line.readField line = .ok l ∧ (d.entity.field? l.field.name).isSome = false ∧ d' = d.add l := by
  unfold Draft.readField at h
  split at h
  · cases h
  · next l hl =>
    split at h
    · cases h
    · next hnew => cases h; exact ⟨l, hl, by simpa using hnew, rfl⟩

theorem note_ok {strict : Bool} {r r' : Reader} {p : Problem} (h : r.note strict p = .ok r') :
    strict = false ∧ r' = { r with problems := r.problems ++ [p] } := by
  unfold Reader.note at h
  split at h
  · cases h
  · next hs => cases h; exact ⟨by simpa using hs, rfl⟩

/-- **A step has one of the effects.** Every successful step is one of the seven. -/
theorem step_effect {strict : Bool} {r r' : Reader} {line : List Char} {n : Nat}
    (h : step strict r (line, n) = .ok r') : Effect strict line n r r' := by
  obtain ⟨schema, problems, block⟩ := r
  simp only [step] at h
  split at h
  · next hs => cases h; exact .idle (by simp [hs]) (by simp [hs]) (by simp [hs])
  · next hs => cases h; exact .idle (by simp [hs]) (by simp [hs]) (by simp [hs])
  · next hs => cases h; exact .idle (by simp [hs]) (by simp [hs]) (by simp [hs])
  · next k name hs =>
    cases block with
    | model d =>
      simp only [Reader.abandon, Reader.note] at h
      split at h
      · cases h
      · next hstrict =>
        cases h
        exact .drops k name d (by simpa using hstrict) hs rfl
    | outside => cases h; exact .opens k name hs (by simp)
    | skipped => cases h; exact .opens k name hs (by simp)
  · next hs =>
    cases block with
    | model d => cases h; exact .commits d hs rfl
    | outside => cases h; exact .leaves hs (by simp)
    | skipped => cases h; exact .leaves hs (by simp)
  · next hs =>
    cases block with
    | model d =>
      simp only at h
      cases hd : d.readField line n with
      | error e => rw [hd] at h; cases h
      | ok d' =>
        rw [hd] at h
        cases h
        obtain ⟨l, hl, hnew, rfl⟩ := draft_readField_ok hd
        exact .adds d l hs rfl hl hnew
    | outside =>
      obtain ⟨hstrict, rfl⟩ := note_ok h
      exact .stray hstrict rfl (Or.inl hs)
    | skipped => cases h; exact .idle (by simp [hs]) (by simp [hs]) (by simp)
  · next hs =>
    cases block with
    | model d => cases h; exact .idle (by simp [hs]) (by simp [hs]) (by simp [hs])
    | outside =>
      obtain ⟨hstrict, rfl⟩ := note_ok h
      exact .stray hstrict rfl (Or.inr hs)
    | skipped => cases h; exact .idle (by simp [hs]) (by simp [hs]) (by simp)

/-! ## The invariant -/

/-- what holds of the closed models of a schema after some lines -/
structure SchemaInv (lines : List (List Char)) (s : Schema) : Prop where
  names : ∀ e ∈ s.entities, (e.fields.map (·.name)).Nodup
  written : ∀ e ∈ s.entities, List.Forall₂ (FieldOf s.relations) e.fields (fieldLines lines e.line)
  /-- positions in the list of relations, read entity by entity and field by field, count up from zero -/
  numbered : (s.entities.flatMap (·.fields)).filterMap Field.relation? = List.range s.relations.length
  ascending : (s.entities.map (·.line)).Pairwise (· < ·)
  opened : ∀ e ∈ s.entities, OpensModel lines e.line e.name
  closed : ∀ e ∈ s.entities, ∃ line ∈ lines.drop e.line, shape line = .closing

/-- what holds of the model that is open after some lines; its relations are its own -/
structure DraftInv (lines : List (List Char)) (s : Schema) (d : Draft) : Prop where
  names : (d.entity.fields.map (·.name)).Nodup
  written : List.Forall₂ (FieldOf d.relations) d.entity.fields
    ((lines.drop d.entity.line).filter (shape · = .field))
  numbered : d.entity.fields.filterMap Field.relation? = List.range d.relations.length
  opened : OpensModel lines d.entity.line d.entity.name
  unclosed : ∀ line ∈ lines.drop d.entity.line, shape line ≠ .closing
  inside : d.entity.line ≤ lines.length
  last : ∀ e ∈ s.entities, e.line < d.entity.line

/-- what holds of a reader after some lines -/
structure Inv (lines : List (List Char)) (r : Reader) : Prop where
  schema : SchemaInv lines r.schema
  draft : ∀ d, r.block = .model d → DraftInv lines r.schema d

theorem inv_start : Inv [] .start where
  schema := by constructor <;> simp [Reader.start, Schema.empty]
  draft := by simp [Reader.start]

/-! ## Lines that come later -/

theorem bodyAfter_append {lines : List (List Char)} {n : Nat} (more : List (List Char))
    (h : ∃ line ∈ lines.drop n, shape line = .closing) : bodyAfter (lines ++ more) n = bodyAfter lines n := by
  obtain ⟨line, hline, hshape⟩ := h
  have hn : n ≤ lines.length := by
    by_contra hn
    rw [List.drop_eq_nil_of_le (by omega)] at hline
    cases hline
  unfold bodyAfter
  rw [List.drop_append_of_le_length hn]
  obtain ⟨a, b, hab⟩ := List.append_of_mem hline
  rw [hab, List.append_assoc, List.cons_append, List.takeWhile_append, List.takeWhile_append]
  split
  · simp [hshape]
  · rfl

/-- a closed model is not touched by later lines -/
theorem SchemaInv.append {lines : List (List Char)} {s : Schema} (h : SchemaInv lines s) (more : List (List Char)) :
    SchemaInv (lines ++ more) s where
  names := h.names
  written e he := by rw [fieldLines, bodyAfter_append more (h.closed e he)]; exact h.written e he
  numbered := h.numbered
  ascending := h.ascending
  opened e he := (h.opened e he).append more
  closed e he := by
    obtain ⟨line, hline, hshape⟩ := h.closed e he
    exact ⟨line, by rw [List.drop_append]; exact List.mem_append_left _ hline, hshape⟩

/-- a line that neither closes the model nor is a field leaves it as it is -/
theorem DraftInv.skip {lines : List (List Char)} {s : Schema} {d : Draft} (h : DraftInv lines s d)
    {line : List Char} (hclosing : shape line ≠ .closing) (hfield : shape line ≠ .field) :
    DraftInv (lines ++ [line]) s d where
  names := h.names
  written := by
    rw [List.drop_append_of_le_length h.inside, List.filter_append]
    simpa [hfield] using h.written
  numbered := h.numbered
  opened := h.opened.append _
  unclosed x hx := by
    rw [List.drop_append_of_le_length h.inside] at hx
    rcases List.mem_append.1 hx with hx | hx
    · exact h.unclosed x hx
    · rw [List.mem_singleton.1 hx]; exact hclosing
  inside := by have := h.inside; simp; omega
  last := h.last

/-! ## A model opens -/

theorem draftInv_open {lines : List (List Char)} {s : Schema} (h : SchemaInv lines s) {line : List Char} {name : String}
    (hshape : shape line = .opening .model name) :
    DraftInv (lines ++ [line]) s ⟨⟨name, lines.length + 1, []⟩, []⟩ where
  names := List.nodup_nil
  written := by simp
  numbered := rfl
  opened := ⟨line, by simp [List.zipIdx_append, Nat.add_comm], hshape⟩
  unclosed := by simp
  inside := by simp
  last e he := by
    obtain ⟨x, hx, -⟩ := h.closed e he
    have := List.length_pos_of_mem hx
    simp only [List.length_drop] at this
    simp only
    omega

theorem declareEnum_entities (s : Schema) (k : Keyword) (name : String) :
    (declareEnum s k name).entities = s.entities := by
  unfold declareEnum; split <;> rfl

theorem declareEnum_relations (s : Schema) (k : Keyword) (name : String) :
    (declareEnum s k name).relations = s.relations := by
  unfold declareEnum; split <;> rfl

/-- enums play no part in the invariant of the models -/
theorem SchemaInv.declareEnum {lines : List (List Char)} {s : Schema} (h : SchemaInv lines s) (k : Keyword)
    (name : String) : SchemaInv lines (declareEnum s k name) := by
  obtain ⟨h1, h2, h3, h4, h5, h6⟩ := h
  constructor <;> simpa only [declareEnum_entities, declareEnum_relations]

/-! ## A field joins -/

theorem FieldOf.mono {relations : List Relation} {f : Field} {line : List Char} (h : FieldOf relations f line)
    (more : List Relation) : FieldOf (relations ++ more) f line := by
  obtain ⟨l, hl, hf, hlink⟩ := h
  refine ⟨l, hl, hf, ?_⟩
  cases hc : l.clause with
  | none => simpa [hc] using hlink
  | some c =>
    simp only [hc] at hlink ⊢
    obtain ⟨i, hi, hr⟩ := hlink
    exact ⟨i, hi, List.getElem?_append_left (List.getElem?_eq_some_iff.1 hr).1 ▸ hr⟩

theorem FieldOf.name {relations : List Relation} {f : Field} {line : List Char} (h : FieldOf relations f line)
    {l : FieldLine} (hl : readField line = .ok l) : f.name = l.field.name := by
  obtain ⟨l', hl', hf, -⟩ := h
  rw [hl] at hl'
  cases hl'
  rw [hf]

theorem field?_isSome_eq_false {e : Entity} {name : String} :
    (e.field? name).isSome = false ↔ name ∉ e.fields.map (·.name) := by
  simp [Entity.field?]

/-- what a field line adds to a draft: one field, and one relation if it has a clause -/
theorem draft_add (d : Draft) (l : FieldLine) :
    ∃ f more, d.add l = ⟨{ d.entity with fields := d.entity.fields ++ [f] }, d.relations ++ more⟩ ∧
      f.name = l.field.name ∧ f = { l.field with link := f.link } ∧
      match l.clause with
      | none => f.link = l.field.link ∧ more = []
      | some c => f.link = .bound d.relations.length ∧ more = [relationOf l.field c] := by
  cases hc : l.clause with
  | none => exact ⟨l.field, [], by simp [Draft.add, hc], rfl, rfl, rfl, rfl⟩
  | some c =>
    exact ⟨{ l.field with link := .bound d.relations.length }, [relationOf l.field c], by simp [Draft.add, hc], rfl,
      rfl, rfl, rfl⟩

/-- a field read from a line without clause takes part in no relation -/
theorem readField_unbound {line : List Char} {l : FieldLine} (h : readField line = .ok l) :
    l.field.relation? = none := by
  unfold Field.relation?
  rw [readField_link h]
  cases l.field.isRelation <;> rfl

theorem DraftInv.add {lines : List (List Char)} {s : Schema} {d : Draft} (h : DraftInv lines s d) {line : List Char}
    {l : FieldLine} (hshape : shape line = .field) (hline : readField line = .ok l)
    (hnew : (d.entity.field? l.field.name).isSome = false) : DraftInv (lines ++ [line]) s (d.add l) := by
  obtain ⟨f, more, hadd, hname, hf, hlink⟩ := draft_add d l
  rw [hadd]
  refine ⟨?_, ?_, ?_, h.opened.append _, fun x hx => ?_, ?_, h.last⟩
  · simp only [List.map_append, List.map_cons, List.map_nil, hname]
    exact List.Nodup.append h.names (List.nodup_singleton _)
      (by simpa using field?_isSome_eq_false.1 hnew)
  · simp only
    rw [List.drop_append_of_le_length h.inside, List.filter_append]
    refine List.rel_append (h.written.imp fun _ _ hx => hx.mono more) ?_
    simp only [hshape, decide_true, List.filter_cons_of_pos, List.filter_nil, List.forall₂_cons, List.Forall₂.nil,
      and_true]
    refine ⟨l, hline, hf, ?_⟩
    cases hc : l.clause with
    | none => simp only [hc] at hlink; exact hlink.1
    | some c =>
      simp only [hc] at hlink
      exact ⟨_, hlink.1, by simp [hlink.2]⟩
  · simp only [List.filterMap_append, h.numbered]
    cases hc : l.clause with
    | none =>
      simp only [hc] at hlink
      have : f.relation? = none := by rw [← readField_unbound hline, Field.relation?, Field.relation?, hlink.1]
      simp [hlink.2, this]
    | some c =>
      simp only [hc] at hlink
      have : f.relation? = some d.relations.length := by rw [Field.relation?, hlink.1]
      simp [hlink.2, this, List.range_succ]
  · simp only at hx
    rw [List.drop_append_of_le_length h.inside] at hx
    rcases List.mem_append.1 hx with hx | hx
    · exact h.unclosed x hx
    · rw [List.mem_singleton.1 hx, hshape]; simp
  · have := h.inside; simp; omega

/-! ## A model closes -/

theorem shiftLink_name (offset : Nat) (f : Field) : (shiftLink offset f).name = f.name := by
  unfold shiftLink; split <;> rfl

theorem shiftLink_relation? (offset : Nat) (f : Field) :
    (shiftLink offset f).relation? = f.relation?.map (offset + ·) := by
  cases h : f.link <;> simp [shiftLink, Field.relation?, h]

/-- a field keeps its relation when both move behind other relations -/
theorem FieldOf.shift {relations : List Relation} {f : Field} {line : List Char} (h : FieldOf relations f line)
    (earlier : List Relation) : FieldOf (earlier ++ relations) (shiftLink earlier.length f) line := by
  obtain ⟨l, hl, hf, hlink⟩ := h
  cases hc : l.clause with
  | none =>
    simp only [hc] at hlink
    have hkeep : shiftLink earlier.length f = f := by
      unfold shiftLink
      rw [hlink, readField_link hl]
      cases l.field.isRelation <;> rfl
    rw [hkeep]
    exact ⟨l, hl, hf, by simpa [hc] using hlink⟩
  | some c =>
    simp only [hc] at hlink
    obtain ⟨i, hi, hr⟩ := hlink
    have hmove : shiftLink earlier.length f = { l.field with link := .bound (earlier.length + i) } := by
      unfold shiftLink
      rw [hi]
      simp only
      rw [hf]
    refine ⟨l, hl, by rw [hmove], ?_⟩
    simp only [hc]
    exact ⟨earlier.length + i, by rw [hmove], by rw [List.getElem?_append_right (by omega)]; simpa using hr⟩

theorem drop_opened_append {lines : List (List Char)} {n : Nat} (hn : n ≤ lines.length) {line : List Char}
    (hopen : ∀ x ∈ lines.drop n, shape x ≠ .closing) (hclose : shape line = .closing) :
    bodyAfter (lines ++ [line]) n = lines.drop n := by
  unfold bodyAfter
  rw [List.drop_append_of_le_length hn, List.takeWhile_append_of_pos (by simpa using hopen)]
  simp [hclose]

/-- **Closing a model.** Its relations, numbered from zero, move behind those of the schema, and what held of
the model and of the schema holds of the larger schema. -/
theorem commit_inv {lines : List (List Char)} {s : Schema} {d : Draft} (hs : SchemaInv lines s)
    (hd : DraftInv lines s d) {line : List Char} (hclose : shape line = .closing) :
    SchemaInv (lines ++ [line]) (commit s d) := by
  have hold := hs.append [line]
  refine ⟨fun e he => ?_, fun e he => ?_, ?_, ?_, fun e he => ?_, fun e he => ?_⟩
  · simp only [commit, List.mem_append, List.mem_singleton] at he
    rcases he with he | rfl
    · exact hs.names e he
    · simpa only [List.map_map, Function.comp_def, shiftLink_name] using hd.names
  · simp only [commit, List.mem_append, List.mem_singleton] at he
    rcases he with he | rfl
    · exact (hold.written e he).imp fun _ _ hx => hx.mono d.relations
    · simp only [fieldLines, drop_opened_append hd.inside hd.unclosed hclose, commit, List.forall₂_map_left_iff]
      exact hd.written.imp fun _ _ hx => hx.shift s.relations
  · have hnew : (d.entity.fields.map (shiftLink s.relations.length)).filterMap Field.relation? =
        (List.range d.relations.length).map (s.relations.length + ·) := by
      rw [← hd.numbered, List.filterMap_map, List.map_filterMap]
      exact congrArg (List.filterMap · d.entity.fields) (funext fun f => shiftLink_relation? _ f)
    simp only [commit, List.flatMap_append, List.flatMap_cons, List.flatMap_nil, List.append_nil,
      List.filterMap_append, hs.numbered, hnew, List.length_append, List.range_add]
  · simp only [commit, List.map_append, List.map_cons, List.map_nil]
    refine List.pairwise_append.2 ⟨hs.ascending, List.pairwise_singleton _ _, fun n hn m hm => ?_⟩
    obtain ⟨e, he, rfl⟩ := List.mem_map.1 hn
    rw [List.mem_singleton.1 hm]
    exact hd.last e he
  · simp only [commit, List.mem_append, List.mem_singleton] at he
    rcases he with he | rfl
    · exact hold.opened e he
    · exact hd.opened.append _
  · simp only [commit, List.mem_append, List.mem_singleton] at he
    rcases he with he | rfl
    · exact hold.closed e he
    · refine ⟨line, ?_, hclose⟩
      rw [List.drop_append_of_le_length hd.inside]
      exact List.mem_append_right _ (List.mem_singleton.2 rfl)

/-! ## Steps and runs -/

/-- **Every line keeps the invariant**, in every block. -/
theorem step_inv {strict : Bool} {lines : List (List Char)} {r r' : Reader} {line : List Char}
    (h : step strict r (line, lines.length + 1) = .ok r') (hi : Inv lines r) : Inv (lines ++ [line]) r' := by
  have hopen : ∀ k name problems, shape line = .opening k name →
      Inv (lines ++ [line]) ⟨declareEnum r.schema k name, problems, openBlock k name (lines.length + 1)⟩ := by
    intro k name problems hshape
    refine ⟨(hi.schema.append _).declareEnum k name, fun d hd => ?_⟩
    unfold openBlock at hd
    split at hd
    · next hk =>
      cases hd
      subst hk
      exact draftInv_open (hi.schema.declareEnum .model name) hshape
    · cases hd
  cases step_effect h with
  | idle hclosing hopening hfield =>
    exact ⟨hi.schema.append _, fun d hd => (hi.draft d hd).skip hclosing fun hf => hfield hf d hd⟩
  | stray hs hblock hshape =>
    exact ⟨hi.schema.append _, fun d hd => by rw [hblock] at hd; cases hd⟩
  | opens k name hshape hblock => exact hopen k name _ hshape
  | drops k name d hs hshape hblock => exact hopen k name _ hshape
  | commits d hshape hblock =>
    exact ⟨commit_inv hi.schema (hi.draft d hblock) hshape, fun d hd => by cases hd⟩
  | leaves hshape hblock => exact ⟨hi.schema.append _, fun d hd => by cases hd⟩
  | adds d l hshape hblock hline hnew =>
    refine ⟨hi.schema.append _, fun d' hd' => ?_⟩
    cases hd'
    exact (hi.draft d hblock).add hshape hline hnew

theorem run_cons (strict : Bool) (r : Reader) (line : List Char × Nat) (rest : List (List Char × Nat)) :
    run strict r (line :: rest) = (step strict r line).bind fun r' => run strict r' rest := rfl

theorem run_append (strict : Bool) (r : Reader) (a b : List (List Char × Nat)) :
    run strict r (a ++ b) = (run strict r a).bind fun r' => run strict r' b := List.foldlM_append

/-- a run that succeeds is a step that succeeds, and then a run that does -/
theorem run_cons_ok {strict : Bool} {r r' : Reader} {line : List Char} {rest : List (List Char)} {n : Nat}
    (h : run strict r ((line :: rest).zipIdx n) = .ok r') :
    ∃ r₁, step strict r (line, n) = .ok r₁ ∧ run strict r₁ (rest.zipIdx (n + 1)) = .ok r' := by
  rw [List.zipIdx_cons, run_cons] at h
  cases hstep : step strict r (line, n) with
  | error e => rw [hstep] at h; cases h
  | ok r₁ =>
    rw [hstep] at h
    exact ⟨r₁, rfl, h⟩

/-- a run over the lines that follow `lines` keeps the invariant -/
theorem run_inv {strict : Bool} {rest lines : List (List Char)} {r r' : Reader}
    (h : run strict r (rest.zipIdx (lines.length + 1)) = .ok r') (hi : Inv lines r) : Inv (lines ++ rest) r' := by
  induction rest generalizing lines r with
  | nil => cases h; simpa using hi
  | cons line rest ih =>
    obtain ⟨r₁, hstep, hrun⟩ := run_cons_ok h
    have h₁ : Inv (lines ++ [line]) r₁ := step_inv hstep hi
    have hrest : run strict r₁ (rest.zipIdx ((lines ++ [line]).length + 1)) = .ok r' := by
      rw [List.length_append]
      exact hrun
    rw [List.append_cons]
    exact ih hrest h₁

theorem read_eq (strict : Bool) (source : String) :
    read strict source = (run strict .start (numberedLines source.toList)).bind (finish strict) := rfl

theorem abandon_schema {strict : Bool} {r r' : Reader} (h : r.abandon strict = .ok r') : r'.schema = r.schema := by
  unfold Reader.abandon at h
  split at h
  · rw [(note_ok h).2]
  · cases h; rfl

theorem read_ok {strict : Bool} {source : String} {o : Outcome} (h : read strict source = .ok o) :
    ∃ r r', run strict .start (numberedLines source.toList) = .ok r ∧ r.abandon strict = .ok r' ∧
      o = ⟨r'.schema, r'.problems⟩ := by
  unfold read at h
  cases hr : run strict .start (numberedLines source.toList) with
  | error e => rw [hr] at h; cases h
  | ok r =>
    rw [hr] at h
    simp only [bind, Except.bind, finish] at h
    cases ha : r.abandon strict with
    | error e => rw [ha] at h; cases h
    | ok r' => rw [ha] at h; cases h; exact ⟨r, r', rfl, ha, rfl⟩

theorem read_schemaInv {strict : Bool} {source : String} {o : Outcome} (h : read strict source = .ok o) :
    SchemaInv (splitLines source.toList) o.schema := by
  obtain ⟨r, r', hr, ha, rfl⟩ := read_ok h
  simp only [abandon_schema ha]
  have hrun : run strict .start ((splitLines source.toList).zipIdx (([] : List (List Char)).length + 1)) = .ok r := hr
  exact (run_inv hrun inv_start).schema

/-! ## Main result -/

/-- a field and the line it was read from: the field is bound exactly where it is no scalar and the line has a
relation clause; without a clause a field that is no scalar is implicit -/
def ReadFrom (f : Field) (line : List Char) : Prop :=
  (∃ l, readField line = .ok l ∧ f = { l.field with link := f.link }) ∧
    f.relation?.isSome = (f.isRelation && hasClause line) ∧
    (f.isRelation = true → hasClause line = false → f.link = .implicit)

/-- a schema read off the lines of a document -/
structure WellRead (lines : List (List Char)) (s : Schema) : Prop where
  names : ∀ e ∈ s.entities, (e.fields.map (·.name)).Nodup
  scalars : ∀ e ∈ s.entities, ∀ f ∈ e.fields, f.isRelation = false → f.link = .none
  /-- the fields of an entity are those of the field lines of its block, in their order -/
  written : ∀ e ∈ s.entities, List.Forall₂ ReadFrom e.fields (fieldLines lines e.line)
  /-- positions in the list of relations, read entity by entity and field by field, count up from zero -/
  numbered : (s.entities.flatMap (·.fields)).filterMap Field.relation? = List.range s.relations.length
  /-- the relation at the position that a field carries is the one that the field declares -/
  declared : ∀ e ∈ s.entities, ∀ f ∈ e.fields, ∀ i, f.relation? = some i → ∃ r, s.relations[i]? = some r ∧
    r.field = f.name ∧ r.target = f.baseType ∧ r.multiple = f.isList ∧ r.required = f.isRequired
  ascending : (s.entities.map (·.line)).Pairwise (· < ·)
  opened : ∀ e ∈ s.entities, OpensModel lines e.line e.name

/-- type and name of a field do not hang on its link -/
theorem withLink_isRelation (f : Field) (link : Link) : { f with link := link }.isRelation = f.isRelation := rfl

theorem FieldOf.readFrom {relations : List Relation} {f : Field} {line : List Char} (h : FieldOf relations f line) :
    ReadFrom f line := by
  obtain ⟨l, hl, hf, hlink⟩ := h
  have hrel : f.isRelation = l.field.isRelation := by rw [hf, withLink_isRelation]
  refine ⟨⟨l, hl, hf⟩, ?_, fun h1 h2 => ?_⟩
  · rw [hrel, ← readField_clause hl]
    cases hc : l.clause with
    | none =>
      simp only [hc] at hlink
      rw [show f.relation? = l.field.relation? by rw [Field.relation?, Field.relation?, hlink], readField_unbound hl]
      rfl
    | some c =>
      simp only [hc] at hlink
      obtain ⟨i, hi, -⟩ := hlink
      simp [Field.relation?, hi]
  · have hnone : l.clause = none := by
      have := readField_clause hl
      rw [h2, Bool.and_false] at this
      simpa using this
    simp only [hnone] at hlink
    rw [hlink, readField_link hl, ← hrel, h1, if_pos rfl]

theorem FieldOf.scalar {relations : List Relation} {f : Field} {line : List Char} (h : FieldOf relations f line)
    (hf : f.isRelation = false) : f.link = .none := by
  obtain ⟨l, hl, hfl, hlink⟩ := h
  have hrel : l.field.isRelation = false := (congrArg Field.isRelation hfl).symm.trans hf
  have hnone : l.clause = none := by
    have := readField_clause hl
    rw [hrel, Bool.false_and] at this
    simpa using this
  simp only [hnone] at hlink
  rw [hlink, readField_link hl, hrel]
  rfl

theorem FieldOf.declared {relations : List Relation} {f : Field} {line : List Char} (h : FieldOf relations f line)
    {i : Nat} (hi : f.relation? = some i) : ∃ r, relations[i]? = some r ∧
      r.field = f.name ∧ r.target = f.baseType ∧ r.multiple = f.isList ∧ r.required = f.isRequired := by
  obtain ⟨l, hl, hf, hlink⟩ := h
  cases hc : l.clause with
  | none =>
    simp only [hc] at hlink
    rw [show f.relation? = l.field.relation? by rw [Field.relation?, Field.relation?, hlink],
      readField_unbound hl] at hi
    cases hi
  | some c =>
    simp only [hc] at hlink
    obtain ⟨j, hj, hr⟩ := hlink
    have : j = i := by simpa [Field.relation?, hj] using hi
    subst this
    refine ⟨_, hr, ?_⟩
    rw [hf]
    exact ⟨rfl, rfl, rfl, rfl⟩

theorem forall₂_left {α β : Type} {R : α → β → Prop} {l : List α} {l' : List β} (h : List.Forall₂ R l l') {a : α}
    (ha : a ∈ l) : ∃ b ∈ l', R a b := by
  induction h with
  | nil => cases ha
  | cons hab _ ih =>
    rcases List.mem_cons.1 ha with rfl | ha
    · exact ⟨_, List.mem_cons_self, hab⟩
    · obtain ⟨b, hb, hR⟩ := ih ha
      exact ⟨b, List.mem_cons_of_mem _ hb, hR⟩

theorem SchemaInv.wellRead {lines : List (List Char)} {s : Schema} (h : SchemaInv lines s) : WellRead lines s := by
  refine ⟨h.names, fun e he f hf hs => ?_, fun e he => (h.written e he).imp fun _ _ hx => hx.readFrom, h.numbered,
    fun e he f hf i hfi => ?_, h.ascending, h.opened⟩
  · obtain ⟨line, -, hline⟩ := forall₂_left (h.written e he) hf
    exact hline.scalar hs
  · obtain ⟨line, -, hline⟩ := forall₂_left (h.written e he) hf
    exact hline.declared hfi

/-- **A schema is read off its lines.** Whatever the document and however strict the reader, the schema it
returns has the names, links, relations and line numbers that the lines of the document give it. -/
theorem read_wellRead (strict : Bool) (source : String) (o : Outcome) (h : read strict source = .ok o) :
    WellRead (splitLines source.toList) o.schema :=
  (read_schemaInv h).wellRead

def droppedDraft : String :=
  "model Draft \x7b\n  other B @relation(fields: [x], references: [y])\nmodel Post \x7b\n  tags Tag[]\n" ++
    "  author User? @relation(fields: [authorId], references: [id]) // who\n  authorId Int\n\x7d\n" ++
    "model Pin \x7b\n  post Post @relation(\"Pin\")\n\x7d\n"

/-- the relation of the dropped model counts for nothing: two entities and two relations are read -/
theorem read_wellRead_droppedDraft : ∃ o, read false droppedDraft = .ok o ∧ o.schema.entities.map (·.line) = [3, 8] ∧
    o.schema.relations.map (·.field) = ["author", "post"] ∧ WellRead (splitLines droppedDraft.toList) o.schema := by
  have h : (read false droppedDraft).toOption.map (fun o => (o.schema.entities.map (·.line),
      o.schema.relations.map (·.field))) = some ([3, 8], ["author", "post"]) := by decide +kernel
  cases ho : read false droppedDraft with
  | error e => rw [ho] at h; cases h
  | ok o =>
    rw [ho] at h
    simp only [Except.toOption, Option.map_some, Option.some.injEq, Prod.mk.injEq] at h
    exact ⟨o, rfl, h.1, h.2, read_wellRead false _ o ho⟩

end EntityScaffold.Document

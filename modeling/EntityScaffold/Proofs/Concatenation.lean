import EntityScaffold.Proofs.Lines
import EntityScaffold.Proofs.Reading

/-!
Documents one after the other. A reader that stands outside every block goes on as at the start of a document, only
further down: it counts the lines from there, and the relations of the models that it closes move behind those already
read (`Outcome.resume`). Every line keeps this (`step_resume`), in every block and for every error, so a whole run does
(`run_resume`). A document whose last block is closed leaves its reader outside; what follows it is then read as a
document of its own and appended (`read_append`).

Relations are numbered within the model that is open, so a draft moves down the document with its line alone; its
relations move when it is closed.
-/

namespace EntityScaffold.Document

open Text Line

/-! ## Further down a document -/

/-- the problem, `lines` lines further down -/
def Problem.shift (lines : Nat) : Problem → Problem
  | .orphanField line text => .orphanField (line + lines) text
  | .unclosedEntity line name => .unclosedEntity (line + lines) name

/-- the error, `lines` lines further down -/
def ReadError.shift (lines : Nat) : ReadError → ReadError
  | .field line text cause => .field (line + lines) text cause
  | .duplicateField line entity name => .duplicateField (line + lines) entity name
  | .structural problem => .structural (problem.shift lines)

/-- the entity, `lines` lines further down, its relations behind `relations` others -/
def shiftEntity (lines relations : Nat) (e : Entity) : Entity :=
  { e with line := e.line + lines, fields := e.fields.map (shiftLink relations) }

/-- a schema, and behind it one that is read `lines` lines further down -/
def appendSchema (s : Schema) (lines : Nat) (t : Schema) : Schema where
  entities := s.entities ++ t.entities.map (shiftEntity lines s.relations.length)
  relations := s.relations ++ t.relations
  enums := s.enums ++ t.enums

/-- what a document holds, and behind it what one holds that is read `lines` lines further down -/
def Outcome.append (o : Outcome) (lines : Nat) (p : Outcome) : Outcome :=
  ⟨appendSchema o.schema lines p.schema, o.problems ++ p.problems.map (Problem.shift lines)⟩

/-- the draft, `lines` lines further down; its relations are still its own -/
def Draft.shift (lines : Nat) (d : Draft) : Draft :=
  { d with entity := { d.entity with line := d.entity.line + lines } }

/-- the block, `lines` lines further down -/
def Block.shift (lines : Nat) : Block → Block
  | .model d => .model (d.shift lines)
  | b => b

/-- the reader that has come as far as `r`, but `lines` lines further down and behind what was read before -/
def Outcome.resume (o : Outcome) (lines : Nat) (r : Reader) : Reader :=
  ⟨appendSchema o.schema lines r.schema, o.problems ++ r.problems.map (Problem.shift lines), r.block.shift lines⟩

/-- a result, or the error further down -/
def shiftResult {α β : Type} (lines : Nat) (f : α → β) : Except ReadError α → Except ReadError β
  | .ok a => .ok (f a)
  | .error e => .error (e.shift lines)

/-- results that are shifted step by step are shifted as a whole -/
theorem shiftResult_bind {α β γ δ : Type} {lines : Nat} {f : α → β} {f' : γ → δ} {g : α → Except ReadError γ}
    {g' : β → Except ReadError δ} (h : ∀ a, g' (f a) = shiftResult lines f' (g a)) (x : Except ReadError α) :
    (shiftResult lines f x).bind g' = shiftResult lines f' (x.bind g) := by
  cases x with
  | ok a => exact h a
  | error e => rfl

/-! ## One line -/

section OneLine

variable (strict : Bool) (o : Outcome) (lines : Nat)

theorem shiftLink_shiftLink (a b : Nat) (f : Field) : shiftLink a (shiftLink b f) = shiftLink (a + b) f := by
  cases h : f.link with
  | bound i => simp [shiftLink, h, Nat.add_assoc]
  | _ => simp [shiftLink, h]

theorem draft_add_shift (d : Draft) (l : FieldLine) : (d.shift lines).add l = (d.add l).shift lines := by
  unfold Draft.add
  cases l.clause <;> rfl

theorem draft_readField_shift (d : Draft) (line : List Char) (n : Nat) :
    (d.shift lines).readField line (n + lines) = shiftResult lines (Draft.shift lines) (d.readField line n) := by
  unfold Draft.readField
  cases Line.readField line with
  | error cause => rfl
  | ok l =>
    have hsame : (d.shift lines).entity.field? l.field.name = d.entity.field? l.field.name := rfl
    dsimp only
    rw [hsame, draft_add_shift]
    split <;> rfl

/-- a draft that is closed further down joins the schemas behind each other as it joins the second one -/
theorem commit_appendSchema (s t : Schema) (d : Draft) :
    commit (appendSchema s lines t) (d.shift lines) = appendSchema s lines (commit t d) := by
  have hfields : d.entity.fields.map (shiftLink (s.relations.length + t.relations.length)) =
      (d.entity.fields.map (shiftLink t.relations.length)).map (shiftLink s.relations.length) := by
    rw [List.map_map]
    exact List.map_congr_left fun f _ => (shiftLink_shiftLink _ _ f).symm
  simp [commit, appendSchema, Draft.shift, shiftEntity, hfields]

theorem declareEnum_appendSchema (s t : Schema) (k : Keyword) (name : String) :
    declareEnum (appendSchema s lines t) k name = appendSchema s lines (declareEnum t k name) := by
  unfold declareEnum
  split
  · simp [appendSchema]
  · rfl

theorem openBlock_shift (k : Keyword) (name : String) (n : Nat) :
    openBlock k name (n + lines) = (openBlock k name n).shift lines := by
  unfold openBlock
  split <;> rfl

theorem note_resume (r : Reader) (p : Problem) :
    (o.resume lines r).note strict (p.shift lines) = shiftResult lines (o.resume lines) (r.note strict p) := by
  cases strict with
  | true => rfl
  | false => simp [Reader.note, shiftResult, Outcome.resume]

theorem abandon_resume (r : Reader) :
    (o.resume lines r).abandon strict = shiftResult lines (o.resume lines) (r.abandon strict) := by
  obtain ⟨schema, problems, block⟩ := r
  cases block with
  | model d => exact note_resume strict o lines _ (.unclosedEntity d.entity.line d.entity.name)
  | outside => rfl
  | skipped => rfl

/-- **A line does the same further down.** -/
theorem step_resume (r : Reader) (line : List Char) (n : Nat) :
    step strict (o.resume lines r) (line, n + lines) =
      shiftResult lines (o.resume lines) (step strict r (line, n)) := by
  obtain ⟨schema, problems, block⟩ := r
  unfold step
  dsimp only
  cases shape line with
  | blank => rfl
  | comment => rfl
  | directive => rfl
  | opening k name =>
    dsimp only
    rw [abandon_resume]
    refine shiftResult_bind (fun r => ?_) _
    simp [shiftResult, Outcome.resume, declareEnum_appendSchema, openBlock_shift]
  | closing =>
    cases block with
    | model d => simp [shiftResult, Outcome.resume, Block.shift, commit_appendSchema]
    | outside => rfl
    | skipped => rfl
  | field =>
    cases block with
    | model d =>
      dsimp only [Outcome.resume, Block.shift]
      rw [draft_readField_shift]
      refine shiftResult_bind (fun d => ?_) _
      rfl
    | outside => exact note_resume strict o lines _ (.orphanField n (shownText line))
    | skipped => rfl
  | other =>
    cases block with
    | model d => rfl
    | outside => exact note_resume strict o lines _ (.orphanField n (shownText line))
    | skipped => rfl

end OneLine

/-! ## All lines -/

/-- **Lines do the same further down.** -/
theorem run_resume (strict : Bool) (o : Outcome) (lines : Nat) (rest : List (List Char)) (r : Reader) (n : Nat) :
    run strict (o.resume lines r) (rest.zipIdx (n + lines)) =
      shiftResult lines (o.resume lines) (run strict r (rest.zipIdx n)) := by
  induction rest generalizing r n with
  | nil => rfl
  | cons line rest ih =>
    rw [List.zipIdx_cons, List.zipIdx_cons, run_cons, run_cons, step_resume]
    refine shiftResult_bind (fun r' => ?_) _
    rw [← ih r' (n + 1), Nat.add_right_comm]

theorem finish_resume (strict : Bool) (o : Outcome) (lines : Nat) (r : Reader) :
    finish strict (o.resume lines r) = shiftResult lines (o.append lines) (finish strict r) := by
  unfold finish
  rw [abandon_resume]
  refine shiftResult_bind (fun r' => ?_) _
  rfl

/-- a reader outside every block goes on as at the start of a document -/
theorem resume_start {r : Reader} (h : r.block = .outside) (lines : Nat) :
    Outcome.resume ⟨r.schema, r.problems⟩ lines .start = r := by
  obtain ⟨schema, problems, block⟩ := r
  obtain rfl : block = .outside := h
  simp [Outcome.resume, Reader.start, appendSchema, Schema.empty, Block.shift]

/-! ## The end of a document -/

/-- the line does something to the block around it: it is not blank, no comment and no directive -/
def isActive (line : List Char) : Bool :=
  match shape line with
  | .blank | .comment | .directive => false
  | _ => true

/-- the last line that does something closes a block -/
def EndsClosed (lines : List (List Char)) : Prop := ∀ last ∈ (lines.filter isActive).getLast?, shape last = .closing

instance (lines : List (List Char)) : Decidable (EndsClosed lines) :=
  inferInstanceAs (Decidable (∀ last ∈ (lines.filter isActive).getLast?, shape last = .closing))

theorem step_inactive {strict : Bool} {r : Reader} {line : List Char} (h : isActive line = false) (n : Nat) :
    step strict r (line, n) = .ok r := by
  unfold isActive at h
  unfold step
  dsimp only
  cases hs : shape line with
  | blank => rfl
  | comment => rfl
  | directive => rfl
  | _ => rw [hs] at h; cases h

theorem step_closing {strict : Bool} {r r' : Reader} {line : List Char} {n : Nat} (hs : shape line = .closing)
    (h : step strict r (line, n) = .ok r') : r'.block = .outside := by
  cases step_effect h with
  | idle hclosing hopening hfield => exact absurd hs hclosing
  | stray hstrict hblock hshape => rw [hs] at hshape; simp at hshape
  | opens k name hshape hblock => rw [hs] at hshape; cases hshape
  | drops k name d hstrict hshape hblock => rw [hs] at hshape; cases hshape
  | commits d hshape hblock => rfl
  | leaves hshape hblock => rfl
  | adds d l hshape hblock hline hnew => rw [hs] at hshape; cases hshape

/-- lines whose last block is closed leave the reader outside every block -/
theorem run_outside {strict : Bool} {lines : List (List Char)} {r r' : Reader} {n : Nat}
    (h : run strict r (lines.zipIdx n) = .ok r') (hclosed : EndsClosed lines)
    (hr : r.block = .outside ∨ lines.filter isActive ≠ []) : r'.block = .outside := by
  induction lines generalizing r n with
  | nil => cases h; exact hr.resolve_right (by simp)
  | cons line rest ih =>
    obtain ⟨r₁, hstep, hrun⟩ := run_cons_ok h
    by_cases hrest : rest.filter isActive = []
    · -- `line` is the last line that does something, if any does
      refine ih hrun (by simp [EndsClosed, hrest]) (Or.inl ?_)
      by_cases hline : isActive line = true
      · exact step_closing (hclosed line (by simp [hline, hrest])) hstep
      · have hline : isActive line = false := by simpa using hline
        rw [step_inactive hline] at hstep
        cases hstep
        exact hr.resolve_right (by simp [hline, hrest])
    · refine ih hrun (fun last hlast => hclosed last ?_) (Or.inr hrest)
      rw [List.filter_cons]
      split
      · rw [List.getLast?_cons_of_ne_nil hrest]
        exact hlast
      · exact hlast

/-- **Reading is compositional.** A document that is empty or ends in a line feed, and whose last block is closed, is
read on its own when another one follows it: its errors are those of the whole; otherwise the errors of the second
document are, further down; otherwise the whole holds what the first document holds, and behind it what the
second does. -/
theorem read_append (strict : Bool) (a b : String) (hend : ∀ c ∈ a.toList.getLast?, c = '\n')
    (hclosed : EndsClosed (splitLines a.toList)) :
    read strict (a ++ b) =
      match read strict a, read strict b with
      | .error e, _ => .error e
      | .ok _, .error e => .error (e.shift (splitLines a.toList).length)
      | .ok o, .ok p => .ok (o.append (splitLines a.toList).length p) := by
  generalize hlength : (splitLines a.toList).length = lines
  have hlines : numberedLines (a ++ b).toList =
      (splitLines a.toList).zipIdx 1 ++ (splitLines b.toList).zipIdx (1 + lines) := by
    rw [numberedLines, String.toList_append, splitLines_append hend, List.zipIdx_append, hlength]
  rw [read_eq strict (a ++ b), hlines, run_append]
  cases hrun : run strict .start ((splitLines a.toList).zipIdx 1) with
  | error e =>
    rw [read_eq, numberedLines, hrun]
    rfl
  | ok r =>
    have houtside : r.block = .outside := run_outside hrun hclosed (Or.inl rfl)
    have hfirst : finish strict r = .ok ⟨r.schema, r.problems⟩ := by
      simp [finish, Reader.abandon, houtside, bind, Except.bind]
    have hsecond : (run strict r ((splitLines b.toList).zipIdx (1 + lines))).bind (finish strict) =
        shiftResult lines (Outcome.append ⟨r.schema, r.problems⟩ lines) (read strict b) := by
      nth_rewrite 1 [← resume_start houtside lines]
      rw [run_resume, read_eq]
      exact shiftResult_bind (finish_resume strict _ lines) _
    have hread : read strict a = .ok ⟨r.schema, r.problems⟩ := by
      rw [read_eq, numberedLines, hrun]
      exact hfirst
    rw [hread]
    refine hsecond.trans ?_
    cases read strict b <;> rfl

def usersSource : String := "model User \x7b\n  best Post @relation(\"Best\")\n\x7d\n// users\n"

def postsSource : String :=
  "stray\nmodel Post \x7b\n  author User @relation(fields: [authorId], references: [id])\n  authorId Int\n\x7d\n" ++
    "model Draft \x7b\n"

/-- behind the users, the posts have their lines and their relation further down -/
theorem read_append_usersSource : ∃ o, read false (usersSource ++ postsSource) = .ok o ∧
    o.schema.entities.map (·.line) = [1, 6] ∧
    (o.schema.entities.flatMap (·.fields)).filterMap Field.relation? = [0, 1] ∧
    o.problems = [.orphanField 5 "stray", .unclosedEntity 10 "Draft"] := by
  have hend : usersSource.toList.getLast? = some '\n' := by decide +kernel
  have h := read_append false usersSource postsSource (by simp [hend]) (by decide +kernel)
  have happended : ((read false usersSource).toOption.bind fun o => (read false postsSource).toOption.map fun p =>
      o.append (splitLines usersSource.toList).length p).map (fun o => (o.schema.entities.map (·.line),
        (o.schema.entities.flatMap (·.fields)).filterMap Field.relation?, o.problems)) =
      some ([1, 6], [0, 1], [.orphanField 5 "stray", .unclosedEntity 10 "Draft"]) := by decide +kernel
  cases ho : read false usersSource with
  | error e => rw [ho] at happended; cases happended
  | ok o =>
    cases hp : read false postsSource with
    | error e => rw [ho, hp] at happended; cases happended
    | ok p =>
      rw [ho, hp] at h happended
      simp only [Except.toOption, Option.bind_some, Option.map_some, Option.some.injEq, Prod.mk.injEq] at happended
      exact ⟨_, h, happended.1, happended.2.1, happended.2.2⟩

end EntityScaffold.Document

import EntityScaffold.Proofs.Formatting
import EntityScaffold.Proofs.Strictness

/-!
Reader and formatter in step. Formatting a document reads it first and then goes over its lines a second time. The
reader has three kinds of block, the formatter holds entries or holds none; line by line they stay in step
(`step_inStep`): the formatter holds entries exactly while a model is open, and a row waits for each field of that
model. So the second pass finds nothing to refuse, and a document that cannot be formatted is one that cannot be read,
for the same reason (`format_error_iff`).
-/

namespace EntityScaffold.Document

open Text Line

/-! ## In step -/

def Block.fieldNames? : Block → Option (List (List Char))
  | .model d => some (d.entity.fields.map (·.name.toList))
  | _ => none

/-- the first cell of an entry that is a row -/
def Entry.name? : Entry → Option (List Char)
  | .row cells => cells.head?
  | .verbatim _ => none

/-- reader and formatter hold the same model open, and a row waits for each of its fields -/
def InStep (r : Reader) (f : Formatter) : Prop := f.entries.map (·.filterMap Entry.name?) = r.block.fieldNames?

section InStep

variable {r : Reader} {f : Formatter}

theorem inStep_start : InStep .start .start := rfl

theorem InStep.outside (h : InStep r f) (hr : ∀ d, r.block ≠ .model d) : f.entries = none := by
  have hnone : r.block.fieldNames? = none := by
    cases hb : r.block with
    | model d => exact absurd hb (hr d)
    | _ => rfl
  exact Option.map_eq_none_iff.1 (h.trans hnone)

theorem InStep.rows (h : InStep r f) {d : Draft} (hr : r.block = .model d) :
    ∃ entries, f.entries = some entries ∧ entries.filterMap Entry.name? = d.entity.fields.map (·.name.toList) := by
  unfold InStep at h
  rw [hr] at h
  exact Option.map_eq_some_iff.1 h

/-- the formatter waits for the end of a model exactly while the reader has one open -/
theorem InStep.isSome_iff (h : InStep r f) : f.entries.isSome = true ↔ ∃ d, r.block = .model d := by
  constructor
  · intro hf
    by_contra hnone
    rw [h.outside fun d hd => hnone ⟨d, hd⟩] at hf
    cases hf
  · rintro ⟨d, hd⟩
    obtain ⟨entries, hentries, -⟩ := h.rows hd
    rw [hentries]
    rfl

end InStep

/-! ## One line -/

section OneLine

variable {strict : Bool} {r r' : Reader} {f : Formatter} {line : List Char} {n : Nat}

theorem name?_entryOf (h : shape line ≠ .field) : (entryOf line).name? = none := by
  unfold entryOf
  cases hs : shape line with
  | field => exact absurd hs h
  | _ => rfl

/-- a line that opens a block brings both to the same place, wherever they stood -/
theorem inStep_open (schema : Schema) (problems : List Problem) (k : Keyword) (name : String) :
    InStep ⟨schema, problems, openBlock k name n⟩ (f.openBlock k name line) := by
  by_cases hk : k = .model <;> simp [InStep, openBlock, Formatter.openBlock, hk, Formatter.write, Block.fieldNames?]

/-- a line that closes a block leaves both outside -/
theorem layStep_closes (h : shape line = .closing) : ∃ f', layStep f line = .ok f' ∧ f'.entries = none := by
  cases hf : f.entries with
  | none => exact ⟨_, layStep_outside (by simp [h]) hf, rfl⟩
  | some entries => exact ⟨_, layStep_closing h hf, rfl⟩

/-- a line without effect on the reader adds no row to those that wait -/
theorem layStep_idle (hs : StaysInBlock line) (hfield : f.entries.isSome = true → shape line ≠ .field) :
    ∃ f', layStep f line = .ok f' ∧
      f'.entries.map (·.filterMap Entry.name?) = f.entries.map (·.filterMap Entry.name?) := by
  cases hf : f.entries with
  | none => exact ⟨_, layStep_outside hs.2 hf, rfl⟩
  | some entries =>
    have hno : shape line ≠ .field := hfield (by rw [hf]; rfl)
    refine ⟨_, layStep_entry hs (fun h => absurd h hno) hf, ?_⟩
    simp [Formatter.add, hf, name?_entryOf hno]

/-- **A line that is read can be laid out**, and reader and formatter stay in step. -/
theorem step_inStep (h : step strict r (line, n) = .ok r') (hi : InStep r f) :
    ∃ f', layStep f line = .ok f' ∧ InStep r' f' := by
  cases step_effect h with
  | idle hclosing hopening hfield =>
    obtain ⟨f', hf', hsame⟩ := layStep_idle (f := f) ⟨hclosing, hopening⟩ fun hf hs => by
      obtain ⟨d, hd⟩ := hi.isSome_iff.1 hf
      exact hfield hs d hd
    exact ⟨f', hf', hsame.trans hi⟩
  | stray hs hblock hshape =>
    have hnone : f.entries = none := hi.outside (by simp [hblock])
    have hopening : ∀ k name, shape line ≠ .opening k name := by rcases hshape with hs | hs <;> simp [hs]
    refine ⟨_, layStep_outside hopening hnone, ?_⟩
    simp [InStep, Formatter.write, hblock, Block.fieldNames?]
  | opens k name hshape hblock => exact ⟨_, layStep_opening hshape, inStep_open _ _ k name⟩
  | drops k name d hs hshape hblock => exact ⟨_, layStep_opening hshape, inStep_open _ _ k name⟩
  | commits d hshape hblock =>
    obtain ⟨f', hf', hnone⟩ := layStep_closes (f := f) hshape
    exact ⟨f', hf', by rw [InStep, hnone]; rfl⟩
  | leaves hshape hblock =>
    obtain ⟨f', hf', hnone⟩ := layStep_closes (f := f) hshape
    exact ⟨f', hf', by rw [InStep, hnone]; rfl⟩
  | adds d l hshape hblock hline hnew =>
    obtain ⟨entries, hf, hrows⟩ := hi.rows hblock
    have hstays : StaysInBlock line := by simp [StaysInBlock, hshape]
    refine ⟨_, layStep_entry hstays (fun _ => ⟨l, hline⟩) hf, ?_⟩
    obtain ⟨field, more, hadd, hname, -⟩ := draft_add d l
    have hrow : (entryOf line).name? = some field.name.toList := by
      rw [entryOf_field hshape hline, hname]
      rfl
    simp [InStep, Formatter.add, hf, Block.fieldNames?, hadd, hrow, hrows]

end OneLine

/-! ## All lines -/

/-- **Lines that are read can be laid out**, and reader and formatter end in step. -/
theorem run_inStep {strict : Bool} {lines : List (List Char)} {r r' : Reader} {f : Formatter} {n : Nat}
    (h : run strict r (lines.zipIdx n) = .ok r') (hi : InStep r f) :
    ∃ f', layLines f lines = .ok f' ∧ InStep r' f' := by
  induction lines generalizing r f n with
  | nil => cases h; exact ⟨f, rfl, hi⟩
  | cons line rest ih =>
    obtain ⟨r₁, hstep, hrun⟩ := run_cons_ok h
    obtain ⟨f₁, hlay, hi₁⟩ := step_inStep hstep hi
    obtain ⟨f', hrest, hi'⟩ := ih hrun hi₁
    exact ⟨f', by rw [layLines_cons, hlay]; exact hrest, hi'⟩

theorem run_of_read {strict : Bool} {source : String} {o : Outcome} (h : read strict source = .ok o)
    {before after : List (List Char)} (hlines : splitLines source.toList = before ++ after) :
    ∃ r, run strict .start (before.zipIdx 1) = .ok r := by
  obtain ⟨r, -, hrun, -⟩ := read_ok h
  rw [numberedLines, hlines, List.zipIdx_append, run_append] at hrun
  cases hbefore : run strict .start (before.zipIdx 1) with
  | error e => rw [hbefore] at hrun; cases hrun
  | ok r₁ => exact ⟨r₁, rfl⟩

/-- **Formatting fails where reading fails**, with the same error, which names a line of the document. In a document
that is read, the second pass over the lines fails nowhere; after each of them reader and formatter are in step. -/
theorem format_error_iff (source : String) :
    (∀ e, format source = .error e ↔ read false source = .error e) ∧
    (∀ e, format source = .error e → 0 < e.line) ∧
    ∀ o, read false source = .ok o → ∀ before after, splitLines source.toList = before ++ after →
      ∃ r f, run false .start (before.zipIdx 1) = .ok r ∧ layLines .start before = .ok f ∧
        (f.entries.isSome = true ↔ ∃ d, r.block = .model d) ∧ InStep r f := by
  have hsame : ∀ e, format source = .error e ↔ read false source = .error e := by
    intro e
    cases hread : read false source with
    | ok o => rw [format_laid hread]; exact ⟨nofun, nofun⟩
    | error e' =>
      have hformat : format source = .error e' := by
        unfold format
        rw [hread]
        rfl
      rw [hformat]
      exact ⟨fun h => by cases h; rfl, fun h => by cases h; rfl⟩
  refine ⟨hsame, fun e he => ?_, fun o h before after hlines => ?_⟩
  · exact (run_error_line (openedBy_start 1) (read_error_run ((hsame e).1 he))).1
  · obtain ⟨r, hrun⟩ := run_of_read h hlines
    obtain ⟨f, hlay, hi⟩ := run_inStep hrun inStep_start
    exact ⟨r, f, hrun, hlay, hi.isSome_iff, hi⟩

/-- the document with a field that has no type is not formatted, for the reason that it is not read -/
theorem format_error_iff_brokenSource : ∃ e, read false brokenSource = .error e ∧ format brokenSource = .error e ∧
    0 < e.line := by
  have hrefused : (read false brokenSource).toOption = none := by decide +kernel
  cases h : read false brokenSource with
  | ok o => rw [h] at hrefused; cases hrefused
  | error e =>
    obtain ⟨hsame, hline, -⟩ := format_error_iff brokenSource
    have hformat : format brokenSource = .error e := (hsame e).2 h
    exact ⟨e, rfl, hformat, hline e hformat⟩

end EntityScaffold.Document

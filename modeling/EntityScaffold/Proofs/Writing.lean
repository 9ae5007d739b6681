import EntityScaffold.Generation
import EntityScaffold.Proofs.Blocks

/-!
What a generation leaves behind. A writer that refuses some paths (`Writer.Refuses`) is told every file before the first
that it refuses, in order, and none after it (`Writes`); that file is the error of the run. A store then holds under
each path what was written to it last, and what it held before where nothing was written (`Holds`).
-/

namespace EntityScaffold

/-! ## Writers that refuse -/

/-- a writer that refuses some paths, each with a reason, and puts the content of any other into its state -/
def Writer.Refuses {σ : Type} (w : Writer (StateM σ)) (refuse : String → Option String)
    (put : String → String → σ → σ) : Prop :=
  ∀ path content state, (w.write path content).run state =
    match refuse path with
    | some reason => (some reason, state)
    | none => (none, put path content state)

def putFiles {σ : Type} (put : String → String → σ → σ) (files : List PlannedFile) (state : σ) : σ :=
  files.foldl (fun state f => put f.path f.content state) state

/-- how the writing of files ends, and which of them are written by then -/
inductive Writes (refuse : String → Option String) :
    List PlannedFile → Except GenerateError Unit → List PlannedFile → Prop
  /-- no file is refused, and all are written -/
  | all {files : List PlannedFile} (hall : ∀ f ∈ files, refuse f.path = none) : Writes refuse files (.ok ()) files
  /-- the first file that is refused is the error, and those before it are written -/
  | upTo {before after : List PlannedFile} {f : PlannedFile} {reason : String}
      (hbefore : ∀ g ∈ before, refuse g.path = none) (hf : refuse f.path = some reason) :
      Writes refuse (before ++ f :: after) (.error (.write f.path reason)) before

theorem Writes.cons {refuse : String → Option String} {f : PlannedFile} {files written : List PlannedFile}
    {result : Except GenerateError Unit} (h : Writes refuse files result written) (hf : refuse f.path = none) :
    Writes refuse (f :: files) result (f :: written) := by
  cases h with
  | all hall => exact .all (List.forall_mem_cons.2 ⟨hf, hall⟩)
  | @upTo before after g reason hbefore hg => exact .upTo (List.forall_mem_cons.2 ⟨hf, hbefore⟩) hg

section Refusing

variable {σ : Type} {w : Writer (StateM σ)} {refuse : String → Option String} {put : String → String → σ → σ}

/-- **Files in order.** They are written up to the first that is refused. -/
theorem Writer.Refuses.writeAll (hw : w.Refuses refuse put) (files : List PlannedFile) (state : σ) :
    ∃ result written, Writes refuse files result written ∧
      (w.writeAll files).run state = (result, putFiles put written state) := by
  induction files generalizing state with
  | nil => exact ⟨.ok (), [], .all (by simp), rfl⟩
  | cons f files ih =>
    have hrun := hw f.path f.content state
    cases hf : refuse f.path with
    | some reason =>
      rw [hf] at hrun
      have hfirst : Writes refuse ([] ++ f :: files) (.error (.write f.path reason)) [] := .upTo (by simp) hf
      refine ⟨.error (.write f.path reason), [], hfirst, ?_⟩
      rw [Writer.writeAll, StateT.run_bind, hrun]
      rfl
    | none =>
      rw [hf] at hrun
      obtain ⟨result, written, hwrites, hrest⟩ := ih (put f.path f.content state)
      refine ⟨result, f :: written, hwrites.cons hf, ?_⟩
      rw [Writer.writeAll, StateT.run_bind, hrun]
      exact hrest

theorem Writer.Refuses.run_carryOut (hw : w.Refuses refuse put) (p : Plan) (state : σ) :
    ∃ result written, Writes refuse p.files result written ∧ (w.carryOut (.ok p)).run state =
      (result.map fun () => { p.report with written := p.files.map (·.path) }, putFiles put written state) := by
  obtain ⟨result, written, hwrites, hrun⟩ := hw.writeAll p.files state
  refine ⟨result, written, hwrites, ?_⟩
  simp only [Writer.carryOut, StateT.run_bind, hrun]
  cases result with
  | ok _ => rfl
  | error e => rfl

end Refusing

/-! ## Stores -/

theorem Path.same_iff {a b : String} :
    Path.same a b = true ↔ Path.components a = Path.components b := decide_eq_true_iff

theorem Path.same_congr {a b : String} (h : Path.same a b = true) (c : String) : Path.same a c = Path.same b c := by
  unfold Path.same
  rw [Path.same_iff.1 h]

namespace Store

/-- the reason for which a store with blocked paths refuses a path -/
def refusal (blocked : List String) (reason path : String) : Option String :=
  if blocked.any (Path.same · path) = true then some reason else none

theorem writer_refuses (blocked : List String) (reason : String) :
    (writer blocked reason).Refuses (refusal blocked reason) fun path content s => s.put path content := by
  intro path content s
  unfold writer refusal
  by_cases h : blocked.any (Path.same · path) = true
  · simp only [h, if_true]
    rfl
  · simp only [h]
    rfl

/-- a put is seen under its path alone -/
theorem get?_put (s : Store) (path content other : String) :
    (s.put path content).get? other = if Path.same path other = true then some content else s.get? other := by
  obtain ⟨stored⟩ := s
  induction stored with
  | nil =>
    by_cases hother : Path.same path other = true
    · simp [put, putFile, get?, hother]
    · simp [put, putFile, get?, hother]
  | cons file stored ih =>
    simp only [put, putFile, get?] at ih ⊢
    by_cases hfile : Path.same file.1 path = true
    · have hcongr := Path.same_congr hfile other
      by_cases hother : Path.same path other = true
      · simp [hfile, hother, hcongr]
      · simp [hfile, hother, hcongr]
    · by_cases hfound : Path.same file.1 other = true
      · -- a path that is both the file's and the one put would make these the same
        have hother : Path.same path other = false := by
          rw [Bool.eq_false_iff]
          exact fun hother => hfile (Path.same_iff.2 ((Path.same_iff.1 hfound).trans (Path.same_iff.1 hother).symm))
        simp [hfile, hfound, hother]
      · simp [hfile, hfound, ih]

/-- what a store holds once files were written into it -/
structure Holds (before : Store) (written : List PlannedFile) (after : Store) : Prop where
  /-- what was there stays where nothing was written -/
  kept : ∀ path, (∀ f ∈ written, Path.same f.path path = false) → after.get? path = before.get? path
  /-- and what was written last is there -/
  last : ∀ earlier f later, written = earlier ++ f :: later → (∀ g ∈ later, Path.same g.path f.path = false) →
    ∀ path, Path.same f.path path = true → after.get? path = some f.content

theorem holds_putFiles (files : List PlannedFile) (s : Store) :
    Holds s files (putFiles (fun path content s => s.put path content) files s) := by
  induction files generalizing s with
  | nil => exact ⟨fun _ _ => rfl, fun earlier _ _ hsplit => absurd hsplit (by simp)⟩
  | cons first files ih =>
    obtain ⟨hkept, hlast⟩ := ih (s.put first.path first.content)
    constructor
    · intro path hpath
      obtain ⟨hfirst, hrest⟩ := List.forall_mem_cons.1 hpath
      exact (hkept path hrest).trans (by rw [get?_put, if_neg (by simp [hfirst])])
    · intro earlier f later hsplit hlater path hpath
      cases earlier with
      | nil =>
        cases hsplit
        -- what comes later is written elsewhere
        have hrest : ∀ g ∈ files, Path.same g.path path = false := by
          intro g hg
          rw [Bool.eq_false_iff]
          intro hsame
          have hback := Path.same_iff.2 ((Path.same_iff.1 hsame).trans (Path.same_iff.1 hpath).symm)
          rw [hlater g hg] at hback
          cases hback
        exact (hkept path hrest).trans (by rw [get?_put, if_pos hpath])
      | cons head earlier =>
        cases hsplit
        exact hlast earlier f later rfl hlater path hpath

end Store

/-- **What a generation leaves behind.** A plan that fails is the error of the run, and nothing is written. Otherwise
the files of the plan are written in order, all of them or up to the first that is refused, whose path the error names;
and a store holds under each path what was written to it last, or what it held before. -/
theorem generateWith_writes {σ : Type} (schedule : Schedule) (o : Options) (r : Renderer) (s : Schema)
    (names : List String) (w : Writer (StateM σ)) (refuse : String → Option String) (put : String → String → σ → σ)
    (hw : w.Refuses refuse put) (state : σ) (blocked : List String) (reason : String) (stored : Store) :
    (∀ error, planWith schedule o r s names = .error error →
      (generateWith schedule o r w s names).run state = (.error error, state)) ∧
    ∀ p, planWith schedule o r s names = .ok p →
      (∃ result written, Writes refuse p.files result written ∧ (generateWith schedule o r w s names).run state =
        (result.map fun () => { p.report with written := p.files.map (·.path) }, putFiles put written state)) ∧
      ∃ result written kept, Writes (Store.refusal blocked reason) p.files result written ∧
        (generateWith schedule o r (Store.writer blocked reason) s names).run stored =
          (result.map fun () => { p.report with written := p.files.map (·.path) }, kept) ∧
        Store.Holds stored written kept := by
  unfold generateWith
  refine ⟨fun error herror => ?_, fun p hp => ?_⟩
  · rw [herror]
    rfl
  · rw [hp]
    refine ⟨hw.run_carryOut p state, ?_⟩
    obtain ⟨result, written, hwrites, hrun⟩ := (Store.writer_refuses blocked reason).run_carryOut p stored
    exact ⟨result, written, _, hwrites, hrun, Store.holds_putFiles written stored⟩

def earlierFiles : Store := ⟨[("ui/tag.txt", "old"), ("notes.txt", "mine")]⟩

def refusedRun : Except GenerateError Report × Store :=
  (generateWith (.parallel reversedWorkers) ⟨.topological, [.validation, .ui]⟩ fussyRenderer
    (Store.writer ["validation//index.txt"] "disk full") ⟨Emission.tagsAndPosts, [], []⟩ ["Tag"]).run earlierFiles

/-- the two files before a refused one are written, one of them over an old file -/
theorem generateWith_writes_refusedRun : ∃ p written kept,
    planWith (.parallel reversedWorkers) ⟨.topological, [.validation, .ui]⟩ fussyRenderer
      ⟨Emission.tagsAndPosts, [], []⟩ ["Tag"] = .ok p ∧
    refusedRun = (.error (.write "validation/index.txt" "disk full"), kept) ∧
    kept = ⟨[("ui/tag.txt", "Tag"), ("notes.txt", "mine"), ("validation/tag.txt", "validation")]⟩ ∧
    Store.Holds earlierFiles written kept := by
  have hplan : (planWith (.parallel reversedWorkers) ⟨.topological, [.validation, .ui]⟩ fussyRenderer
      ⟨Emission.tagsAndPosts, [], []⟩ ["Tag"]).toOption.map fates = some (["Tag"], []) := by decide +kernel
  have hrun : refusedRun.1 = .error (.write "validation/index.txt" "disk full") ∧
      refusedRun.2 = ⟨[("ui/tag.txt", "Tag"), ("notes.txt", "mine"), ("validation/tag.txt", "validation")]⟩ := by
    decide +kernel
  obtain ⟨p, hp, -⟩ := ok_of_toOption_map hplan
  obtain ⟨-, hall⟩ := generateWith_writes _ _ _ _ _ _ _ _ (Store.writer_refuses ["validation//index.txt"] "disk full")
    earlierFiles ["validation//index.txt"] "disk full" earlierFiles
  obtain ⟨-, result, written, kept, -, hrefused, hholds⟩ := hall p hp
  change refusedRun = _ at hrefused
  have hkept : refusedRun.2 = kept := by rw [hrefused]
  refine ⟨p, written, kept, hp, ?_, hkept ▸ hrun.2, hholds⟩
  rw [← hrun.1, ← hkept]

end EntityScaffold

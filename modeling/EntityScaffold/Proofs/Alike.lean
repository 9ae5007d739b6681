import EntityScaffold.Proofs.Concatenation
import EntityScaffold.Proofs.TokenShape

/-!
What a reader does not look at. Blanks between tokens, comments, blank lines and directives carry nothing: two lines
are `Alike` when both are of that kind, or when they have the same tokens and the same indentation. Inside a block that
is skipped nothing is looked at but the lines that open or close a block. Two readers that differ in nothing but the
texts they noted are kept together by lines that are alike (`step_alike`) and by lines that are skipped
(`step_skipped`), so two runs stay together (`run_alike`), whatever they refuse on the way. Main statement:
`read_alike`, documents that are alike line by line hold the same, noted and refused texts aside.
-/

namespace EntityScaffold.Document

open Text Line

/-! ## Texts shown aside -/

/-- the problem without the text it shows -/
def Problem.bare : Problem → Problem
  | .orphanField line _ => .orphanField line ""
  | .unclosedEntity line name => .unclosedEntity line name

/-- the error without the text it shows -/
def ReadError.bare : ReadError → ReadError
  | .field line _ cause => .field line "" cause
  | .duplicateField line entity name => .duplicateField line entity name
  | .structural problem => .structural problem.bare

/-- the reader without the texts it noted -/
def Reader.bare (r : Reader) : Reader := { r with problems := r.problems.map Problem.bare }

/-- what a document holds, without the texts that were noted -/
def Outcome.bare (o : Outcome) : Outcome := { o with problems := o.problems.map Problem.bare }

/-- a result without the texts it shows -/
def bareResult {α : Type} (bare : α → α) : Except ReadError α → Except ReadError α
  | .ok a => .ok (bare a)
  | .error e => .error e.bare

/-- results that agree are continued alike when all that agrees is -/
theorem bareResult_bind {α β : Type} {bare : α → α} {bare' : β → β} {x y : Except ReadError α}
    {f g : α → Except ReadError β} (h : bareResult bare x = bareResult bare y)
    (hfg : ∀ a b, x = .ok a → y = .ok b → bare a = bare b → bareResult bare' (f a) = bareResult bare' (g b)) :
    bareResult bare' (x.bind f) = bareResult bare' (y.bind g) := by
  cases x with
  | error e =>
    cases y with
    | error e' => exact congrArg Except.error (Except.error.inj h)
    | ok b => cases h
  | ok a =>
    cases y with
    | error e' => cases h
    | ok b => exact hfg a b rfl rfl (Except.ok.inj h)

/-! ## Lines that are alike -/

/-- the lines say the same: neither does anything, or they have the same tokens before their comments, and both are
indented or neither is -/
def Alike (a b : List Char) : Prop :=
  (isActive a = false ∧ isActive b = false) ∨
    ((tokens? (codeOf a)).isSome = true ∧ tokens? (codeOf a) = tokens? (codeOf b) ∧ isIndented a = isIndented b)

instance (a b : List Char) : Decidable (Alike a b) := inferInstanceAs (Decidable (_ ∨ _))

/-- the lines after `line` stand in a block that is skipped -/
def skippedAfter (skipped : Bool) (line : List Char) : Bool :=
  match shape line with
  | .opening keyword _ => keyword ≠ .model
  | .closing => false
  | _ => skipped

/-- the line at a position stands in a block that is skipped, `skipped` telling whether the first line does -/
def InSkipped (skipped : Bool) (lines : List (List Char)) (i : Nat) : Prop :=
  (lines.take i).foldl skippedAfter skipped = true

instance (skipped : Bool) (lines : List (List Char)) (i : Nat) : Decidable (InSkipped skipped lines i) :=
  inferInstanceAs (Decidable (_ = true))

/-- at a position the lines are alike, or both stand in skipped blocks and neither opens nor closes a block -/
def AlikeAt (skipped : Bool) (lines lines' : List (List Char)) (i : Nat) : Prop :=
  Alike (lines.getD i []) (lines'.getD i []) ∨
    (InSkipped skipped lines i ∧ InSkipped skipped lines' i ∧ StaysInBlock (lines.getD i []) ∧
      StaysInBlock (lines'.getD i []))

/-! ## One line -/

section OneLine

variable {strict : Bool} {r r' : Reader} {a b : List Char}

theorem note_bare (hr : r.bare = r'.bare) {p p' : Problem} (hp : p.bare = p'.bare) :
    bareResult Reader.bare (r.note strict p) = bareResult Reader.bare (r'.note strict p') := by
  obtain ⟨schema, problems, block⟩ := r
  obtain ⟨schema', problems', block'⟩ := r'
  obtain ⟨rfl, hproblems, rfl⟩ := Reader.mk.inj hr
  cases strict with
  | true => simp [Reader.note, bareResult, ReadError.bare, hp]
  | false => simp [Reader.note, bareResult, Reader.bare, hproblems, hp]

theorem abandon_bare (hr : r.bare = r'.bare) :
    bareResult Reader.bare (r.abandon strict) = bareResult Reader.bare (r'.abandon strict) := by
  have hblock : r.block = r'.block := (Reader.mk.inj hr).2.2
  unfold Reader.abandon
  rw [hblock]
  cases r'.block with
  | model d => exact note_bare hr rfl
  | outside => exact congrArg Except.ok hr
  | skipped => exact congrArg Except.ok hr

/-- lines of one shape that are read alike do the same, whatever texts were noted before -/
theorem step_bare (hr : r.bare = r'.bare) (hshape : shape a = shape b) (hread : Line.readField a = Line.readField b)
    (n : Nat) : bareResult Reader.bare (step strict r (a, n)) = bareResult Reader.bare (step strict r' (b, n)) := by
  have habandon : bareResult Reader.bare (r.abandon strict) = bareResult Reader.bare (r'.abandon strict) :=
    abandon_bare hr
  have hnote : bareResult Reader.bare (r.note strict (.orphanField n (shownText a))) =
      bareResult Reader.bare (r'.note strict (.orphanField n (shownText b))) := note_bare hr rfl
  obtain ⟨schema, problems, block⟩ := r
  obtain ⟨schema', problems', block'⟩ := r'
  obtain ⟨rfl, hproblems, rfl⟩ := Reader.mk.inj hr
  have hsame : ∀ s c, Reader.bare ⟨s, problems, c⟩ = Reader.bare ⟨s, problems', c⟩ := fun s c =>
    congrArg (fun noted => Reader.mk s noted c) hproblems
  unfold step
  dsimp only
  rw [hshape]
  cases shape b with
  | blank => exact congrArg Except.ok hr
  | comment => exact congrArg Except.ok hr
  | directive => exact congrArg Except.ok hr
  | opening k name =>
    refine bareResult_bind habandon fun s t _ _ hst => ?_
    obtain ⟨hschema, hnoted, -⟩ := Reader.mk.inj hst
    simp [bareResult, Reader.bare, hschema, hnoted]
  | closing =>
    cases block with
    | model d => exact congrArg Except.ok (hsame _ _)
    | outside => exact congrArg Except.ok (hsame _ _)
    | skipped => exact congrArg Except.ok (hsame _ _)
  | field =>
    cases block with
    | model d =>
      dsimp only [Draft.readField]
      rw [hread]
      cases Line.readField b with
      | error cause => rfl
      | ok l =>
        dsimp only
        split
        · rfl
        · exact congrArg Except.ok (hsame _ _)
    | outside => exact hnote
    | skipped => exact congrArg Except.ok hr
  | other =>
    cases block with
    | model d => exact congrArg Except.ok hr
    | outside => exact hnote
    | skipped => exact congrArg Except.ok hr

theorem isActive_of_no_tokens {line : List Char} (h : tokens? (codeOf line) = some []) : isActive line = false := by
  unfold isActive
  rcases shape_of_no_tokens h with hs | hs <;> rw [hs]

theorem Alike.same (h : Alike a b) : (isActive a = false ∧ isActive b = false) ∨
    (shape a = shape b ∧ Line.readField a = Line.readField b) := by
  rcases h with hidle | ⟨hsome, htokens, hindented⟩
  · exact Or.inl hidle
  · obtain ⟨tokens, ha⟩ := Option.isSome_iff_exists.1 hsome
    have hb := htokens.symm.trans ha
    cases tokens with
    | nil => exact Or.inl ⟨isActive_of_no_tokens ha, isActive_of_no_tokens hb⟩
    | cons t rest =>
      refine Or.inr ⟨shape_of_tokens ha hb hindented, ?_⟩
      rw [Line.readField, Line.readField, htokens]

/-- **Lines that are alike do the same**, whatever texts were noted before. -/
theorem step_alike (hr : r.bare = r'.bare) (h : Alike a b) (n : Nat) :
    bareResult Reader.bare (step strict r (a, n)) = bareResult Reader.bare (step strict r' (b, n)) := by
  rcases h.same with ⟨ha, hb⟩ | ⟨hshape, hread⟩
  · rw [step_inactive ha, step_inactive hb]
    exact congrArg Except.ok hr
  · exact step_bare hr hshape hread n

/-- a line of a skipped block does nothing unless it opens or closes a block -/
theorem step_skipped (hr : r.block = .skipped) (h : StaysInBlock a) (n : Nat) : step strict r (a, n) = .ok r := by
  unfold step
  dsimp only
  rw [hr]
  cases hs : shape a with
  | opening k name => exact absurd hs (h.2 k name)
  | closing => exact absurd hs h.1
  | _ => rfl

theorem skippedAfter_of_stays (h : StaysInBlock a) (skipped : Bool) : skippedAfter skipped a = skipped := by
  unfold skippedAfter
  cases hs : shape a with
  | opening k name => exact absurd hs (h.2 k name)
  | closing => exact absurd hs h.1
  | _ => rfl

theorem stays_of_stray (h : shape a = .field ∨ shape a = .other) : StaysInBlock a := by
  rcases h with hs | hs <;> simp [StaysInBlock, hs]

theorem stays_of_inactive (h : isActive a = false) : StaysInBlock a := by
  unfold isActive at h
  cases hs : shape a <;> simp_all [StaysInBlock]

/-- the reader stands in a skipped block where the lines say so -/
theorem step_inSkipped {skipped : Bool} {n : Nat} (h : step strict r (a, n) = .ok r')
    (hr : skipped = true → r.block = .skipped) (hs : skippedAfter skipped a = true) : r'.block = .skipped := by
  have hstays : StaysInBlock a → r.block = .skipped := fun hstays =>
    hr (by rwa [skippedAfter_of_stays hstays] at hs)
  have hopen : ∀ k name, shape a = .opening k name → openBlock k name n = .skipped := by
    intro k name hshape
    rw [skippedAfter, hshape] at hs
    exact if_neg (by simpa using hs)
  have hclose : shape a ≠ .closing := by
    intro hshape
    rw [skippedAfter, hshape] at hs
    cases hs
  cases step_effect h with
  | idle hclosing hopening hfield => exact hstays ⟨hclosing, hopening⟩
  | stray hstrict hblock hshape =>
    have hskipped := hstays (stays_of_stray hshape)
    rw [hblock] at hskipped
    cases hskipped
  | opens k name hshape hblock => exact hopen k name hshape
  | drops k name d hstrict hshape hblock => exact hopen k name hshape
  | commits d hshape hblock => exact absurd hshape hclose
  | leaves hshape hblock => exact absurd hshape hclose
  | adds d l hshape hblock hline hnew =>
    have hskipped := hstays (stays_of_stray (Or.inl hshape))
    rw [hblock] at hskipped
    cases hskipped

end OneLine

/-! ## All lines -/

section AllLines

variable {strict skipped : Bool} {r r' : Reader} {a b : List Char} {rest rest' : List (List Char)}

/-- lines that agree at the start leave both readers in a skipped block, or neither -/
theorem skippedAfter_of_alikeAt (h : AlikeAt skipped (a :: rest) (b :: rest') 0) :
    skippedAfter skipped a = skippedAfter skipped b := by
  have hstays : StaysInBlock a → StaysInBlock b → skippedAfter skipped a = skippedAfter skipped b := fun ha hb => by
    rw [skippedAfter_of_stays ha, skippedAfter_of_stays hb]
  rcases h with h | ⟨-, -, ha, hb⟩
  · rcases Alike.same (a := a) (b := b) h with ⟨ha, hb⟩ | ⟨hshape, -⟩
    · exact hstays (stays_of_inactive ha) (stays_of_inactive hb)
    · rw [skippedAfter, skippedAfter, hshape]
  · exact hstays ha hb

/-- the first lines do the same when they agree -/
theorem step_alikeAt (hr : r.bare = r'.bare) (hs : skipped = true → r.block = .skipped)
    (h : AlikeAt skipped (a :: rest) (b :: rest') 0) (n : Nat) :
    bareResult Reader.bare (step strict r (a, n)) = bareResult Reader.bare (step strict r' (b, n)) := by
  rcases h with h | ⟨hskipped, -, ha, hb⟩
  · exact step_alike hr h n
  · have hblock : r.block = .skipped := hs hskipped
    have hblock' : r'.block = .skipped := (Reader.mk.inj hr).2.2 ▸ hblock
    rw [step_skipped (a := a) hblock ha, step_skipped (a := b) hblock' hb]
    exact congrArg Except.ok hr

/-- **Lines that agree at every position do the same**, whatever texts were noted before. -/
theorem run_alike {lines lines' : List (List Char)} (hr : r.bare = r'.bare) (hs : skipped = true → r.block = .skipped)
    (hlength : lines.length = lines'.length) (h : ∀ i < lines.length, AlikeAt skipped lines lines' i) (n : Nat) :
    bareResult Reader.bare (run strict r (lines.zipIdx n)) =
      bareResult Reader.bare (run strict r' (lines'.zipIdx n)) := by
  induction lines generalizing lines' r r' n skipped with
  | nil =>
    obtain rfl : lines' = [] := List.length_eq_zero_iff.1 hlength.symm
    exact congrArg Except.ok hr
  | cons a rest ih =>
    obtain ⟨b, rest', rfl⟩ := List.exists_cons_of_length_eq_add_one hlength.symm
    have hfirst := h 0 (Nat.succ_pos _)
    have hsame := skippedAfter_of_alikeAt hfirst
    rw [List.zipIdx_cons, List.zipIdx_cons, run_cons, run_cons]
    refine bareResult_bind (step_alikeAt hr hs hfirst n) fun s t hstep _ hst => ?_
    refine ih hst (step_inSkipped hstep hs) (Nat.succ.inj hlength) (fun i hi => ?_) (n + 1)
    have hnext := h (i + 1) (Nat.succ_lt_succ hi)
    simpa [AlikeAt, InSkipped, ← hsame] using hnext

end AllLines

/-! ## Documents -/

theorem finish_bare {strict : Bool} {r r' : Reader} (hr : r.bare = r'.bare) :
    bareResult Outcome.bare (finish strict r) = bareResult Outcome.bare (finish strict r') := by
  unfold finish
  refine bareResult_bind (abandon_bare hr) fun s t _ _ hst => ?_
  obtain ⟨hschema, hnoted, -⟩ := Reader.mk.inj hst
  simp [bareResult, Outcome.bare, hschema, hnoted]

/-- **Layout and skipped text are irrelevant.** Two documents with equally many lines, which are alike line by line but
for lines of skipped blocks that open and close nothing, hold the same: the same entities, relations and enums, and
the same problems up to the texts they show; or they are refused for the same error, up to the text it shows. -/
theorem read_alike (strict : Bool) (a b : String)
    (hlength : (splitLines a.toList).length = (splitLines b.toList).length)
    (h : ∀ i < (splitLines a.toList).length, AlikeAt false (splitLines a.toList) (splitLines b.toList) i) :
    bareResult Outcome.bare (read strict a) = bareResult Outcome.bare (read strict b) := by
  have houtside : false = true → Reader.start.block = .skipped := nofun
  rw [read_eq, read_eq]
  refine bareResult_bind (run_alike rfl houtside hlength h 1) fun s t _ _ hst => ?_
  exact finish_bare hst

def tidySource : String := "stray\nenum Role \x7b\n  \"\n\x7d\nmodel User \x7b\n  id Int\n\n\x7d"

def wideSource : String := "stray//\nenum  Role \x7b // a\nany\n\x7d //\nmodel\tUser \x7b\n\tid\tInt//key\n  @@id\n\x7d"

/-- with other blanks and comments the model and the enum stay, and the problems differ in the stray line alone -/
theorem read_alike_wideSource : ∃ o p, read false tidySource = .ok o ∧ read false wideSource = .ok p ∧
    o.schema = p.schema ∧ o.schema.enums = ["Role"] ∧ o.problems = [.orphanField 1 "stray"] ∧
    p.problems = [.orphanField 1 "stray//"] := by
  have htidy : splitLines tidySource.toList = ["stray", "enum Role \x7b", "  \"", "\x7d", "model User \x7b", "  id Int",
      "", "\x7d"].map String.toList := by decide +kernel
  have hwide : splitLines wideSource.toList = ["stray//", "enum  Role \x7b // a", "any", "\x7d //", "model\tUser \x7b",
      "\tid\tInt//key", "  @@id", "\x7d"].map String.toList := by decide +kernel
  have h := read_alike false tidySource wideSource (by simp only [htidy, hwide, List.length_map]; rfl) fun i hi => by
    rw [htidy] at hi
    rw [htidy, hwide]
    by_cases htwo : i = 2
    · -- what stands in the enum is not alike
      subst htwo
      have hfield : shape "  \"".toList = .field := by decide +kernel
      have hother : shape "any".toList = .other := by decide +kernel
      exact Or.inr
        ⟨by decide +kernel, by decide +kernel, stays_of_stray (Or.inl hfield), stays_of_stray (Or.inr hother)⟩
    · left
      revert i
      decide +kernel
  have hread : ((read false tidySource).toOption.map fun o => (o.schema.enums, o.problems),
      (read false wideSource).toOption.map (·.problems)) =
        (some (["Role"], [.orphanField 1 "stray"]), some [.orphanField 1 "stray//"]) := by decide +kernel
  cases ho : read false tidySource with
  | error e => rw [ho] at hread; cases hread
  | ok o =>
    cases hp : read false wideSource with
    | error e => rw [hp] at hread; cases hread
    | ok p =>
      rw [ho, hp] at h hread
      simp only [Except.toOption, Option.map_some, Prod.mk.injEq, Option.some.injEq] at hread
      exact ⟨o, p, rfl, rfl, (Outcome.mk.inj (Except.ok.inj h)).1, hread.1.1, hread.1.2, hread.2⟩

end EntityScaffold.Document

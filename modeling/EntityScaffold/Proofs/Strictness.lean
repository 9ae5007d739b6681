import EntityScaffold.Proofs.Reading

/-!
Strict and lenient reading. The two readers are one until the first structural problem: the lenient reader notes it
and goes on, the strict one stops there (`step_compared`). So a strict reading succeeds exactly where a lenient one
notes nothing, and it stops at the first problem that a lenient one notes (`run_strict_ok`); where even a lenient
reading fails, a strict one fails at the same line or at an earlier one (`run_strict_error`).

A problem can carry the line of an opening that came long before; no problem carries a later line than the one that
is read, so the problems noted on the way come before the line that a lenient reader refuses.
-/

namespace EntityScaffold.Document

open Text Line

def ReadError.line : ReadError → Nat
  | .field line _ _ => line
  | .duplicateField line _ _ => line
  | .structural problem => problem.line

/-! ## One line -/

/-- no model is open that was opened after the line numbered `n` -/
def OpenedBy (n : Nat) (r : Reader) : Prop := ∀ d, r.block = .model d → d.entity.line ≤ n

theorem openedBy_start (n : Nat) : OpenedBy n .start := nofun

/-- what a lenient and a strict reader make of one line, numbered `n` -/
inductive Compared (r : Reader) (n : Nat) : Except ReadError Reader → Except ReadError Reader → Prop
  /-- both refuse the line -/
  | refuse (e : ReadError) (hline : e.line = n) (hfatal : ∀ p, e ≠ .structural p) :
      Compared r n (.error e) (.error e)
  /-- both read it alike, and nothing is noted -/
  | agree (r' : Reader) (hproblems : r'.problems = r.problems) : Compared r n (.ok r') (.ok r')
  /-- the lenient reader notes a problem and goes on, the strict one stops there -/
  | part (r' : Reader) (p : Problem) (hline : p.line ≤ n) (hproblems : r'.problems = r.problems ++ [p]) :
      Compared r n (.ok r') (.error (.structural p))

theorem draft_readField_error {d : Draft} {line : List Char} {n : Nat} {e : ReadError}
    (h : d.readField line n = .error e) : e.line = n ∧ ∀ p, e ≠ .structural p := by
  unfold Draft.readField at h
  split at h
  · cases h; exact ⟨rfl, nofun⟩
  · split at h
    · cases h; exact ⟨rfl, nofun⟩
    · cases h

/-- **The readers compared.** On one line they refuse alike or read alike, or they part at a structural problem. -/
theorem step_compared {r : Reader} {n : Nat} (h : OpenedBy n r) (line : List Char) :
    Compared r n (step false r (line, n)) (step true r (line, n)) := by
  obtain ⟨schema, problems, block⟩ := r
  unfold step
  dsimp only
  cases shape line with
  | blank => exact .agree _ rfl
  | comment => exact .agree _ rfl
  | directive => exact .agree _ rfl
  | opening k name =>
    cases block with
    | model d => exact .part _ (.unclosedEntity d.entity.line d.entity.name) (h d rfl) rfl
    | outside => exact .agree _ rfl
    | skipped => exact .agree _ rfl
  | closing =>
    cases block with
    | model d => exact .agree _ rfl
    | outside => exact .agree _ rfl
    | skipped => exact .agree _ rfl
  | field =>
    cases block with
    | model d =>
      dsimp only
      cases hd : d.readField line n with
      | error e =>
        obtain ⟨hline, hfatal⟩ := draft_readField_error hd
        exact .refuse e hline hfatal
      | ok d' => exact .agree _ rfl
    | outside => exact .part _ (.orphanField n (shownText line)) (le_refl n) rfl
    | skipped => exact .agree _ rfl
  | other =>
    cases block with
    | model d => exact .agree _ rfl
    | outside => exact .part _ (.orphanField n (shownText line)) (le_refl n) rfl
    | skipped => exact .agree _ rfl

theorem step_openedBy {strict : Bool} {r r' : Reader} {line : List Char} {n : Nat}
    (h : step strict r (line, n) = .ok r') (hr : OpenedBy n r) : OpenedBy (n + 1) r' := by
  have hopen : ∀ k name d, openBlock k name n = .model d → d.entity.line ≤ n + 1 := by
    intro k name d hd
    unfold openBlock at hd
    split at hd
    · cases hd; exact Nat.le_succ n
    · cases hd
  intro d hd
  cases step_effect h with
  | idle hclosing hopening hfield => exact Nat.le_succ_of_le (hr d hd)
  | stray hs hblock hshape => exact Nat.le_succ_of_le (hr d hd)
  | opens k name hshape hblock => exact hopen k name d hd
  | drops k name d' hs hshape hblock => exact hopen k name d hd
  | commits d' hshape hblock => cases hd
  | leaves hshape hblock => cases hd
  | adds d' l hshape hblock hline hnew =>
    obtain ⟨f, more, hadd, -⟩ := draft_add d' l
    cases hd
    rw [hadd]
    exact Nat.le_succ_of_le (hr d' hblock)

/-! ## All lines -/

/-- what a strict reader makes of lines that a lenient one reads, noting `more` problems -/
def strictResult {α : Type} (result : α) : List Problem → Except ReadError α
  | [] => .ok result
  | p :: _ => .error (.structural p)

/-- **A strict run stops at the first problem** that the lenient run notes. -/
theorem run_strict_ok {lines : List (List Char)} {n : Nat} {r r' : Reader} (hr : OpenedBy n r)
    (h : run false r (lines.zipIdx n) = .ok r') :
    ∃ more, r'.problems = r.problems ++ more ∧ run true r (lines.zipIdx n) = strictResult r' more := by
  induction lines generalizing n r with
  | nil => cases h; exact ⟨[], by rw [List.append_nil], rfl⟩
  | cons line rest ih =>
    obtain ⟨r₁, hstep, hrest⟩ := run_cons_ok h
    obtain ⟨more, hmore, hrun⟩ := ih (step_openedBy hstep hr) hrest
    have hcompared := step_compared hr line
    rw [hstep] at hcompared
    rw [List.zipIdx_cons, run_cons]
    generalize step true r (line, n) = result at hcompared
    cases hcompared with
    | agree _ hproblems => exact ⟨more, by rw [hmore, hproblems], hrun⟩
    | part _ p _ hproblems => exact ⟨p :: more, by rw [hmore, hproblems, List.append_assoc]; rfl, rfl⟩

/-- a lenient run fails at a line that it reads, and never at a structural problem -/
theorem run_error_line {lines : List (List Char)} {n : Nat} {r : Reader} {e : ReadError} (hr : OpenedBy n r)
    (h : run false r (lines.zipIdx n) = .error e) : n ≤ e.line ∧ ∀ p, e ≠ .structural p := by
  induction lines generalizing n r with
  | nil => cases h
  | cons line rest ih =>
    rw [List.zipIdx_cons, run_cons] at h
    cases hstep : step false r (line, n) with
    | error e' =>
      have hcompared := step_compared hr line
      rw [hstep] at h hcompared
      cases h
      generalize step true r (line, n) = result at hcompared
      cases hcompared with
      | refuse _ hline hfatal => exact ⟨hline.ge, hfatal⟩
    | ok r₁ =>
      rw [hstep] at h
      obtain ⟨hline, hfatal⟩ := ih (step_openedBy hstep hr) h
      exact ⟨Nat.le_of_succ_le hline, hfatal⟩

/-- **A strict run fails no later** than the lenient run: with the same error, or at a problem of an earlier line. -/
theorem run_strict_error {lines : List (List Char)} {n : Nat} {r : Reader} {e : ReadError} (hr : OpenedBy n r)
    (h : run false r (lines.zipIdx n) = .error e) :
    run true r (lines.zipIdx n) = .error e ∨
      ∃ p, run true r (lines.zipIdx n) = .error (.structural p) ∧ p.line < e.line := by
  induction lines generalizing n r with
  | nil => cases h
  | cons line rest ih =>
    rw [List.zipIdx_cons, run_cons] at h ⊢
    have hcompared := step_compared hr line
    cases hstep : step false r (line, n) with
    | error e' =>
      rw [hstep] at h hcompared
      cases h
      generalize step true r (line, n) = result at hcompared
      cases hcompared with
      | refuse _ hline hfatal => exact Or.inl rfl
    | ok r₁ =>
      rw [hstep] at h hcompared
      have hlater := (run_error_line (step_openedBy hstep hr) h).1
      have hrest := ih (step_openedBy hstep hr) h
      generalize step true r (line, n) = result at hcompared
      cases hcompared with
      | agree _ hproblems => exact hrest
      | part _ p hline hproblems => exact Or.inr ⟨p, rfl, Nat.lt_of_le_of_lt hline hlater⟩

/-! ## Documents -/

/-- at the end of a document a lenient reader never fails, and a strict one stops where a model is still open -/
theorem finish_compared (r : Reader) :
    ∃ o more, finish false r = .ok o ∧ o.problems = r.problems ++ more ∧ finish true r = strictResult o more := by
  obtain ⟨schema, problems, block⟩ := r
  cases block with
  | model d =>
    exact ⟨⟨schema, problems ++ [.unclosedEntity d.entity.line d.entity.name]⟩, _, rfl, rfl, rfl⟩
  | outside => exact ⟨⟨schema, problems⟩, [], rfl, (List.append_nil _).symm, rfl⟩
  | skipped => exact ⟨⟨schema, problems⟩, [], rfl, (List.append_nil _).symm, rfl⟩

/-- a strict reading is told by what a lenient one notes -/
theorem read_strictResult {source : String} {o : Outcome} (h : read false source = .ok o) :
    read true source = strictResult o o.problems := by
  rw [read_eq] at h ⊢
  cases hrun : run false .start (numberedLines source.toList) with
  | error e => rw [hrun] at h; cases h
  | ok r =>
    obtain ⟨noted, hnoted, hstrict⟩ := run_strict_ok (openedBy_start 1) hrun
    obtain ⟨o', more, hfinish, hmore, hend⟩ := finish_compared r
    rw [hrun] at h
    obtain rfl : o' = o := Except.ok.inj (hfinish.symm.trans h)
    rw [numberedLines, hstrict, hmore, hnoted]
    cases noted with
    | nil => exact hend
    | cons p noted => rfl

/-- a lenient reading fails at a line of the document -/
theorem read_error_run {source : String} {e : ReadError} (h : read false source = .error e) :
    run false .start (numberedLines source.toList) = .error e := by
  rw [read_eq] at h
  cases hrun : run false .start (numberedLines source.toList) with
  | error e' => rw [hrun] at h; cases h; rfl
  | ok r =>
    obtain ⟨o, more, hfinish, -⟩ := finish_compared r
    rw [hrun] at h
    cases hfinish.symm.trans h

/-- a lenient reading that fails makes the strict one fail, at the same place or at a problem of an earlier line -/
theorem read_strict_error {source : String} {e : ReadError} (h : read false source = .error e) :
    read true source = .error e ∨ ∃ p, read true source = .error (.structural p) ∧ p.line < e.line := by
  rcases run_strict_error (openedBy_start 1) (read_error_run h) with hrun | ⟨p, hrun, hline⟩
  · left
    rw [read_eq, numberedLines, hrun]
    rfl
  · refine Or.inr ⟨p, ?_, hline⟩
    rw [read_eq, numberedLines, hrun]
    rfl

/-- a strict reading succeeds where a lenient one notes nothing, and then they are the same -/
theorem read_strict_eq_ok_iff {source : String} {o : Outcome} :
    read true source = .ok o ↔ read false source = .ok o ∧ o.problems = [] := by
  constructor
  · intro h
    cases hread : read false source with
    | error e =>
      rcases read_strict_error hread with hstrict | ⟨p, hstrict, -⟩
      · cases h.symm.trans hstrict
      · cases h.symm.trans hstrict
    | ok o' =>
      have hstrict := h.symm.trans (read_strictResult hread)
      cases hproblems : o'.problems with
      | cons p more => rw [hproblems] at hstrict; cases hstrict
      | nil =>
        rw [hproblems] at hstrict
        cases hstrict
        exact ⟨rfl, hproblems⟩
  · rintro ⟨h, hnone⟩
    rw [read_strictResult h, hnone]
    rfl

/-- **Strict and lenient reading.** A document is read strictly when it is read leniently without a problem, and then
both readings are the same. Where the lenient reading notes problems, the strict one fails with the first of them;
where it fails, which is never for a structural problem, the strict one fails with the same error or with a structural
problem of an earlier line. -/
theorem read_strict (source : String) :
    (∀ o, read true source = .ok o ↔ read false source = .ok o ∧ o.problems = []) ∧
    (∀ o p more, read false source = .ok o → o.problems = p :: more → read true source = .error (.structural p)) ∧
    ∀ e, read false source = .error e → (∀ p, e ≠ .structural p) ∧
      (read true source = .error e ∨ ∃ p, read true source = .error (.structural p) ∧ p.line < e.line) := by
  refine ⟨fun o => read_strict_eq_ok_iff, fun o p more h hproblems => ?_, fun e h => ⟨?_, read_strict_error h⟩⟩
  · rw [read_strictResult h, hproblems]
    rfl
  · exact (run_error_line (openedBy_start 1) (read_error_run h)).2

def brokenSource : String := "model Draft \x7b\n  id Int @id\nmodel Post \x7b\n  title\n\x7d\n"

/-- the lenient reading fails at the field, the strict one at the model before it -/
theorem read_strict_brokenSource : ∃ e p, read false brokenSource = .error e ∧ e.line = 4 ∧
    read true brokenSource = .error (.structural p) ∧ p.line < e.line := by
  have hline : (match read false brokenSource with | .error e => some e.line | .ok _ => none) = some 4 := by
    decide +kernel
  have hstrict : read true brokenSource = .error (.structural (.unclosedEntity 1 "Draft")) := by decide +kernel
  cases h : read false brokenSource with
  | ok o => rw [h] at hline; cases hline
  | error e =>
    rw [h] at hline
    obtain ⟨hfatal, hearlier⟩ := (read_strict brokenSource).2.2 e h
    rcases hearlier with hsame | ⟨p, hp, hlt⟩
    · exact absurd (Except.error.inj (hsame.symm.trans hstrict)) (hfatal _)
    · exact ⟨e, p, rfl, Option.some.inj hline, hp, hlt⟩

end EntityScaffold.Document

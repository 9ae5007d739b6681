import EntityScaffold.Artifact.Service
import EntityScaffold.Proofs.Lines

/-!
Bounds of a call that finds many records. A value is a bound exactly when it is a number below `2^64` or a text that
writes one (`valueBound?_iff`): the sign, the zeros in front and the blanks around do not matter, and nothing else
passes. The start is looked at before the end (`FindManyPlan.args_bounds`), and the window between two bounds shows the
records at the places from the first on and before the second, none of them when the bounds are the wrong way round.
-/

namespace EntityScaffold.Artifact

open Text

/-! ## Bounds as written -/

/-- the number that ASCII digits write in base ten, the last of them the units -/
def numeralValue (digits : List Char) : Nat := Nat.ofDigits 10 (digits.reverse.map fun c => c.toNat - '0'.toNat)

/-- a text that writes a number: digits, at most one plus sign before them, and blanks around -/
inductive WritesNumber : List Char → Nat → Prop
  | digits {lead sign digits tail : List Char} (hlead : ∀ c ∈ lead, isBlank c = true) (hsign : sign = [] ∨ sign = ['+'])
      (hsome : digits ≠ []) (hdigits : ∀ c ∈ digits, c.isDigit = true) (htail : ∀ c ∈ tail, isBlank c = true) :
      WritesNumber (lead ++ (sign ++ digits) ++ tail) (numeralValue digits)

/-- a value that stands for a number -/
inductive StandsFor : Json → Nat → Prop
  | number (n : Nat) : StandsFor (.number (.integer n)) n
  | text {s : String} {n : Nat} (h : WritesNumber s.toList n) : StandsFor (.string s) n

/-- a value that is a bound -/
def IsBound (value : Json) (n : Nat) : Prop := StandsFor value n ∧ n < 2 ^ 64

theorem digitsValue_eq (digits : List Char) : digitsValue digits = numeralValue digits := by
  rw [digitsValue, numeralValue, Nat.ofDigits_eq_foldr, List.foldr_map, List.foldl_eq_foldr_reverse]
  congr 1
  funext c n
  simp [Nat.add_comm]

/-! ## Reading a text -/

section Texts

variable {text digits sign : List Char}

theorem blank_of_digit {c : Char} (h : c.isDigit = true) : isBlank c = false := by
  have hdigits : ∀ n : Fin 128, (Char.ofNat n).isDigit = true → isBlank (Char.ofNat n) = false := by decide +kernel
  have hrange : c.toNat < 128 := by
    simp only [Char.isDigit, Bool.and_eq_true, decide_eq_true_eq, UInt32.le_iff_toNat_le] at h
    exact Nat.lt_of_le_of_lt h.2 (by decide)
  have hc := hdigits ⟨c.toNat, hrange⟩
  rw [Char.ofNat_toNat] at hc
  exact hc h

theorem trim_signed (hsign : sign = [] ∨ sign = ['+']) (hsome : digits ≠ [])
    (hdigits : ∀ c ∈ digits, c.isDigit = true) : trim (sign ++ digits) = sign ++ digits := by
  refine trim_eq_self (fun c hc => ?_) fun c hc => ?_
  · rcases hsign with rfl | rfl
    · exact blank_of_digit (hdigits c (List.mem_of_head? hc))
    · obtain rfl := Option.some.inj hc
      decide
  · rw [List.getLast?_append_of_ne_nil _ hsome] at hc
    exact blank_of_digit (hdigits c (List.mem_of_getLast? hc))

theorem isPrefixOf?_signed (hsign : sign = [] ∨ sign = ['+']) (hdigits : ∀ c ∈ digits, c.isDigit = true) :
    (['+'].isPrefixOf? (sign ++ digits)).getD (sign ++ digits) = digits := by
  rcases hsign with rfl | rfl
  · cases digits with
    | nil => rfl
    | cons c digits =>
      have hplus : '+' ≠ c := by
        rintro rfl
        exact absurd (hdigits '+' List.mem_cons_self) (by decide)
      simp [List.isPrefixOf?, hplus]
  · simp [List.isPrefixOf?]

/-- what is left of a trimmed text is a sign and the rest -/
theorem signed_split (trimmed : List Char) : ∃ sign, (sign = [] ∨ sign = ['+']) ∧
    trimmed = sign ++ (['+'].isPrefixOf? trimmed).getD trimmed := by
  cases trimmed with
  | nil => exact ⟨[], Or.inl rfl, rfl⟩
  | cons c rest =>
    by_cases hplus : '+' = c
    · subst hplus
      exact ⟨['+'], Or.inr rfl, by simp [List.isPrefixOf?]⟩
    · exact ⟨[], Or.inl rfl, by simp [List.isPrefixOf?, hplus]⟩

/-- **A text is read as the number that it writes**, if that fits. -/
theorem textBound?_iff {n : Nat} : textBound? text = some n ↔ WritesNumber text n ∧ n < 2 ^ 64 := by
  have hlimit : boundLimit = 2 ^ 64 := rfl
  constructor
  · intro h
    obtain ⟨lead, tail, htext, hlead, htail⟩ := trim_append text
    obtain ⟨sign, hsign, htrim⟩ := signed_split (trim text)
    simp only [textBound?] at h
    generalize (['+'].isPrefixOf? (trim text)).getD (trim text) = digits at h htrim
    split at h
    · next hread =>
      simp only [Bool.and_eq_true, decide_eq_true_eq, List.all_eq_true] at hread
      obtain ⟨⟨hsome, hdigits⟩, hbelow⟩ := hread
      obtain rfl := Option.some.inj h
      rw [digitsValue_eq, hlimit] at *
      refine ⟨?_, hbelow⟩
      rw [htext, htrim]
      exact .digits hlead hsign hsome hdigits htail
    · cases h
  · rintro ⟨⟨hlead, hsign, hsome, hdigits, htail⟩, hbelow⟩
    simp only [textBound?]
    rw [trim_append_blanks _ htail, trim_blanks_append _ hlead, trim_signed hsign hsome hdigits,
      isPrefixOf?_signed hsign hdigits, digitsValue_eq, hlimit, if_pos]
    simp only [Bool.and_eq_true, decide_eq_true_eq, List.all_eq_true]
    exact ⟨⟨hsome, hdigits⟩, hbelow⟩

end Texts

theorem valueBound?_integer {m : Int} {n : Nat} :
    valueBound? (.number (.integer m)) = some n ↔ m = n ∧ n < 2 ^ 64 := by
  have hlimit : boundLimit = 2 ^ 64 := rfl
  simp only [valueBound?, hlimit, Option.ite_none_right_eq_some, Option.some.injEq, Bool.and_eq_true, decide_eq_true_eq]
  omega

/-- **Values that are bounds**, and no others, are read as one. -/
theorem valueBound?_iff {value : Json} {n : Nat} : valueBound? value = some n ↔ IsBound value n := by
  constructor
  · intro h
    match value, h with
    | .number (.integer m), h =>
      obtain ⟨rfl, hbelow⟩ := valueBound?_integer.1 h
      exact ⟨.number n, hbelow⟩
    | .string s, h => exact ⟨.text (textBound?_iff.1 h).1, (textBound?_iff.1 h).2⟩
  · rintro ⟨hvalue, hbelow⟩
    cases hvalue with
    | number n => exact valueBound?_integer.2 ⟨rfl, hbelow⟩
    | text htext => exact textBound?_iff.2 ⟨htext, hbelow⟩

theorem valueBound?_eq_none {value : Json} : valueBound? value = none ↔ ∀ n, ¬IsBound value n := by
  rw [Option.eq_none_iff_forall_ne_some]
  exact forall_congr' fun n => not_congr valueBound?_iff

/-! ## Parameters -/

/-- the parameter is absent, or its value is the bound -/
def Gives (params : List (String × Json)) (param : String) : Option Nat → Prop
  | none => Json.lookup? param params = none
  | some n => ∃ value, Json.lookup? param params = some value ∧ IsBound value n

/-- the fault names the parameter, and its value, which is no bound -/
def Faults (params : List (String × Json)) (param : String) (e : InvalidBound) : Prop :=
  e.param = param ∧ Json.lookup? param params = some e.value ∧ ∀ n, ¬IsBound e.value n

section Params

variable {params : List (String × Json)} {param : String}

theorem bound_cases (params : List (String × Json)) (param : String) :
    (∃ b, bound params param = .ok b ∧ (∀ b', Gives params param b' ↔ b' = b) ∧ ∀ e, ¬Faults params param e) ∨
      ∃ e, bound params param = .error e ∧ (∀ b, ¬Gives params param b) ∧ ∀ e', Faults params param e' ↔ e' = e := by
  unfold bound
  cases hvalue : Json.lookup? param params with
  | none =>
    refine Or.inl ⟨none, rfl, fun b' => ?_, fun e he => ?_⟩
    · cases b' with
      | none => simp [Gives, hvalue]
      | some n => simp [Gives, hvalue]
    · rw [Faults, hvalue] at he
      cases he.2.1
  | some value =>
    simp only
    cases hbound : valueBound? value with
    | some n =>
      refine Or.inl ⟨some n, rfl, fun b' => ?_, fun e he => ?_⟩
      · cases b' with
        | none => simp [Gives, hvalue]
        | some m => simp [Gives, hvalue, ← valueBound?_iff, hbound, eq_comm]
      · rw [Faults, hvalue] at he
        obtain rfl := Option.some.inj he.2.1
        exact he.2.2 n (valueBound?_iff.1 hbound)
    | none =>
      have hnot := valueBound?_eq_none.1 hbound
      refine Or.inr ⟨⟨param, value⟩, rfl, fun b hb => ?_, fun e => ⟨fun he => ?_, ?_⟩⟩
      · cases b with
        | none => rw [Gives, hvalue] at hb; cases hb
        | some n =>
          obtain ⟨value', hvalue', hn⟩ := hb
          rw [hvalue] at hvalue'
          obtain rfl := Option.some.inj hvalue'
          exact hnot n hn
      · obtain ⟨eparam, evalue⟩ := e
        rw [Faults, hvalue] at he
        obtain ⟨rfl, hsame, -⟩ := he
        obtain rfl := Option.some.inj hsame
        rfl
      · rintro rfl
        exact ⟨rfl, hvalue, hnot⟩

end Params

/-! ## Windows -/

/-- the records at the places from the first bound on and before the second, in their order -/
def between {α : Type} (start stop : Option Nat) (records : List α) : List α :=
  (records.zipIdx.filter fun r => start.all (· ≤ r.2) && stop.all (r.2 < ·)).map Prod.fst

/-- the records that are left when some are passed over and some are taken; all of them without a window -/
def inWindow {α : Type} (window : Option Window) (records : List α) : List α :=
  match window with
  | none => records
  | some w =>
    match w.take with
    | none => records.drop w.skip
    | some n => (records.drop w.skip).take n

section Windows

variable {α : Type}

/-- records counted from a place on: those before the first bound are dropped -/
theorem filter_from (start k : Nat) (records : List α) :
    ((records.zipIdx k).filter fun r => start ≤ r.2).map Prod.fst = records.drop (start - k) := by
  induction records generalizing k with
  | nil => simp
  | cons x records ih =>
    by_cases hk : start ≤ k
    · have hrest := ih (k + 1)
      rw [Nat.sub_eq_zero_of_le (Nat.le_succ_of_le hk), List.drop_zero] at hrest
      simp [List.zipIdx_cons, hk, hrest]
    · obtain ⟨m, hm⟩ : ∃ m, start - k = m + 1 := ⟨start - k - 1, by omega⟩
      have hrest := ih (k + 1)
      rw [show start - (k + 1) = m by omega] at hrest
      simp [List.zipIdx_cons, hk, hrest, hm]

theorem filter_before (stop k : Nat) (records : List α) :
    (records.zipIdx k).filter (fun r => r.2 < stop) = (records.take (stop - k)).zipIdx k := by
  induction records generalizing k with
  | nil => simp
  | cons x records ih =>
    by_cases hk : k < stop
    · obtain ⟨m, hm⟩ : ∃ m, stop - k = m + 1 := ⟨stop - k - 1, by omega⟩
      have hrest := ih (k + 1)
      rw [show stop - (k + 1) = m by omega] at hrest
      simp [List.zipIdx_cons, hk, hrest, hm]
    · have hrest := ih (k + 1)
      rw [show stop - (k + 1) = 0 by omega] at hrest
      simp [List.zipIdx_cons, hk, hrest, show stop - k = 0 by omega]

/-- **The window between two bounds** shows the records between them. -/
theorem inWindow_window? (a : FindManyArgs) (records : List α) :
    inWindow a.window? records = between a.start a.stop records := by
  obtain ⟨ids, start, stop⟩ := a
  unfold between
  cases start with
  | none =>
    cases stop with
    | none =>
      have hall : (records.zipIdx.filter fun _ => true) = records.zipIdx := List.filter_true _
      simp [FindManyArgs.window?, inWindow, hall]
    | some stop => simp [FindManyArgs.window?, inWindow, filter_before]
  | some start =>
    cases stop with
    | none => simp [FindManyArgs.window?, inWindow, filter_from]
    | some stop =>
      simp only [FindManyArgs.window?, inWindow, Option.all_some]
      rw [← List.filter_filter, filter_before, filter_from, List.drop_take, Nat.sub_zero, Nat.sub_zero]

end Windows

/-- **Bounds of a call.** The parameters are understood exactly when each of the two is absent or a bound; otherwise the
fault names the start, if that is none, and the end else. What is understood are the bounds given, and their window
shows the records at the places from the start on and before the end, in their order. -/
theorem FindManyPlan.args_bounds (p : FindManyPlan) (params : List (String × Json)) :
    (∀ a, p.args params = .ok a ↔
      Gives params p.startParam a.start ∧ Gives params p.endParam a.stop ∧ a.ids = p.ids? params) ∧
    (∀ e, p.args params = .error e ↔ Faults params p.startParam e ∨
      (∃ start, Gives params p.startParam start) ∧ Faults params p.endParam e) ∧
    ((∃ a, p.args params = .ok a) ↔
      (∃ start, Gives params p.startParam start) ∧ ∃ stop, Gives params p.endParam stop) ∧
    ∀ a, p.args params = .ok a → ∀ (α : Type) (records : List α),
      inWindow a.window? records = between a.start a.stop records := by
  have hwindow : ∀ a, p.args params = .ok a → ∀ (α : Type) (records : List α),
      inWindow a.window? records = between a.start a.stop records := fun a _ _ records => inWindow_window? a records
  unfold FindManyPlan.args at hwindow ⊢
  rcases bound_cases params p.startParam with ⟨start, hread, hgives, hfaults⟩ | ⟨fault, hread, hgives, hfaults⟩
  · rcases bound_cases params p.endParam with ⟨stop, hread', hgives', hfaults'⟩ | ⟨fault, hread', hgives', hfaults'⟩
    · have hboth : (do
          let start ← bound params p.startParam
          let stop ← bound params p.endParam
          .ok ⟨p.ids? params, start, stop⟩ : Except InvalidBound FindManyArgs) = .ok ⟨p.ids? params, start, stop⟩ := by
        rw [hread, hread']
        rfl
      refine ⟨fun a => ?_, fun e => ?_, ?_, hwindow⟩
      · obtain ⟨ids, s, t⟩ := a
        simp only [hboth, hgives, hgives', Except.ok.injEq, FindManyArgs.mk.injEq]
        tauto
      · simp [hboth, hfaults, hfaults']
      · simp [hboth, hgives, hgives']
    · simp [hread, hread', hgives, hgives', hfaults, hfaults', bind, Except.bind, eq_comm]
  · simp [hread, hgives, hfaults, bind, Except.bind, eq_comm]

def crossedParams : List (String × Json) := [("_end", .number (.integer 3)), ("_start", .string " +007\t")]

/-- the bounds are understood, and no record is at a place from the start on and before the end -/
theorem FindManyPlan.args_bounds_crossed :
    ∃ a, FindManyPlan.args ⟨"id", true, "_start", "_end"⟩ crossedParams = .ok a ∧ a.start = some 7 ∧ a.stop = some 3 ∧
      inWindow a.window? (List.range 9) = between (some 7) (some 3) (List.range 9) ∧
      between (some 7) (some 3) (List.range 9) = [] := by
  have hstart : Gives crossedParams "_start" (some 7) := ⟨_, rfl, valueBound?_iff.1 (by decide)⟩
  have hstop : Gives crossedParams "_end" (some 3) := ⟨_, rfl, valueBound?_iff.1 (by decide)⟩
  obtain ⟨hok, -, -, hwindow⟩ := FindManyPlan.args_bounds ⟨"id", true, "_start", "_end"⟩ crossedParams
  have hread := (hok ⟨none, some 7, some 3⟩).2 ⟨hstart, hstop, rfl⟩
  exact ⟨_, hread, rfl, rfl, hwindow _ hread Nat (List.range 9), by decide⟩

end EntityScaffold.Artifact

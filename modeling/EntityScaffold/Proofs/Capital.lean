import EntityScaffold.Proofs.Spelling

/-!
Capital letters stay. What a letter becomes in upper case can be several letters, and the first of them is its own
upper case (`toUpper_first`), so a text with its first letter in upper case is not changed again (`upperFirst_idem`).
-/

namespace EntityScaffold.Text

/-! ## Sets of code points -/

/-- a set of code points, each a bit of one number -/
def bits (points : List Nat) : Nat := points.foldr (fun n set => 1 <<< n ||| set) 0

theorem testBit_bits {points : List Nat} {n : Nat} (h : n ∈ points) : (bits points).testBit n = true := by
  induction points with
  | nil => cases h
  | cons m points ih =>
    have hstep : bits (m :: points) = 1 <<< m ||| bits points := rfl
    rw [hstep, Nat.testBit_or, Bool.or_eq_true]
    rcases List.mem_cons.1 h with rfl | h
    · simp
    · exact Or.inr (ih h)

theorem disjoint_of_bits {a b : List Nat} (h : bits a &&& bits b = 0) {n : Nat} (ha : n ∈ a) : n ∉ b := by
  intro hb
  have hboth : (bits a &&& bits b).testBit n = true := by
    rw [Nat.testBit_and, testBit_bits ha, testBit_bits hb]
    rfl
  rw [h, Nat.zero_testBit] at hboth
  cases hboth

/-! ## Shifts -/

namespace CaseShift

/-- the code points that a shift moves -/
def points (s : CaseShift) : List Nat := List.range' s.first ((s.last - s.first) / s.step + 1) s.step

def images (s : CaseShift) : List Nat := s.points.map fun n : Nat => ((n : Int) + s.distance).toNat

theorem mem_points {s : CaseShift} {n : Nat} (h : s.moves n = true) : n ∈ s.points := by
  simp only [moves, Bool.and_eq_true, decide_eq_true_eq, beq_iff_eq] at h
  obtain ⟨⟨hfirst, hlast⟩, hstep⟩ := h
  refine List.mem_range'.2 ⟨(n - s.first) / s.step, ?_, ?_⟩
  · exact Nat.lt_succ_of_le (Nat.div_le_div_right (by omega))
  · have hdiv := Nat.div_add_mod (n - s.first) s.step
    omega

end CaseShift

/-- the code points that upper case changes -/
def raised : List Nat :=
  List.range' 'a'.toNat 26 ++ toUpperExpansions.map Prod.fst ++ toUpperShifts.flatMap CaseShift.points

/-- the first of what they become beyond ASCII -/
def capitals : List Nat := toUpperShifts.flatMap CaseShift.images ++ toUpperExpansions.filterMap (·.2.head?)

/-- nothing that a letter becomes is changed again -/
theorem capital_stays {n : Nat} (h : n ∈ capitals) : n ∉ raised :=
  disjoint_of_bits (by decide +kernel) h

/-! ## Letters -/

theorem toUpper_of_not_raised {c : Char} (h : c.toNat ∉ raised) : toUpper c = [c] := by
  simp only [raised, List.mem_append, not_or, List.mem_flatMap, not_exists, not_and] at h
  obtain ⟨⟨hsmall, hexpansion⟩, hshift⟩ := h
  unfold toUpper
  split
  · next hc =>
    have hupper := of_ascii (p := fun c => c.toNat ∈ List.range' 'a'.toNat 26 ∨ c.toUpper = c) (by decide +kernel) hc
    rw [hupper.resolve_left hsmall]
  · have hnone : expandCase toUpperExpansions c = none := by
      rw [expandCase, List.lookup_eq_none_iff.2 fun e he => ?_, Option.map_none]
      exact bne_iff_ne.2 fun heq => hexpansion (List.mem_map.2 ⟨e, he, heq.symm⟩)
    have hstays : shiftCase toUpperShifts c = c := by
      rw [shiftCase, List.find?_eq_none.2 fun s hs hmoves => hshift s hs (CaseShift.mem_points hmoves)]
    rw [hnone, hstays]
    rfl

/-- a character but null has one code point -/
theorem eq_toNat_of_ofNat {n : Nat} {c : Char} (h : Char.ofNat n = c) (hc : c ≠ '\x00') : n = c.toNat := by
  subst h
  unfold Char.ofNat at hc ⊢
  by_cases hn : n.isValidChar
  · rw [dif_pos hn]
    rfl
  · rw [dif_neg hn] at hc
    exact absurd rfl hc

/-- the character of a code point that no letter becomes more than once -/
theorem toUpper_capital {n : Nat} (h : n ∈ capitals) : toUpper (Char.ofNat n) = [Char.ofNat n] := by
  by_cases hnull : Char.ofNat n = '\x00'
  · rw [hnull]
    decide
  · exact toUpper_of_not_raised (eq_toNat_of_ofNat rfl hnull ▸ capital_stays h)

/-- **The first letter of an upper-case form** is its own upper case. -/
theorem toUpper_first (c : Char) : ∃ u rest, toUpper c = u :: rest ∧ toUpper u = [u] := by
  unfold toUpper
  by_cases hc : isAscii c = true
  · have hupper := of_ascii (p := fun c => toUpper c.toUpper = [c.toUpper]) (by decide +kernel) hc
    exact ⟨c.toUpper, [], by rw [if_pos hc], hupper⟩
  · rw [if_neg hc]
    cases hexpansion : expandCase toUpperExpansions c with
    | some chars =>
      obtain ⟨codes, hmem, rfl⟩ := expandCase_eq_some hexpansion
      have hsome : ∀ e ∈ toUpperExpansions, e.2 ≠ [] := by decide
      obtain ⟨n, codes, rfl⟩ := List.exists_cons_of_ne_nil (hsome _ hmem)
      exact ⟨Char.ofNat n, _, rfl,
        toUpper_capital (List.mem_append_right _ (List.mem_filterMap.2 ⟨_, hmem, rfl⟩))⟩
    | none =>
      refine ⟨shiftCase toUpperShifts c, [], rfl, ?_⟩
      unfold shiftCase
      cases hshift : toUpperShifts.find? (·.moves c.toNat) with
      | some s =>
        have hmoves : s.moves c.toNat = true := by simpa using List.find?_some hshift
        have himage : (c.toNat + s.distance).toNat ∈ s.images := List.mem_map_of_mem (CaseShift.mem_points hmoves)
        exact toUpper_capital
          (List.mem_append_left _ (List.mem_flatMap.2 ⟨s, List.mem_of_find?_eq_some hshift, himage⟩))
      | none =>
        have hown : toUpper c = [c] := by simp [toUpper, hc, hexpansion, shiftCase, hshift]
        exact hown

/-! ## Texts -/

/-- a text in upper case at its start stays so with more text behind it -/
theorem upperFirst_append {text : List Char} (h : upperFirst text = text) (hne : text ≠ []) (tail : List Char) :
    upperFirst (text ++ tail) = text ++ tail := by
  obtain ⟨c, rest, rfl⟩ := List.exists_cons_of_ne_nil hne
  rw [List.cons_append, upperFirst, ← List.append_assoc]
  exact congrArg (· ++ tail) h

/-- **Upper case at the start of a text** is not changed again. -/
theorem upperFirst_idem (text : List Char) : upperFirst (upperFirst text) = upperFirst text := by
  cases text with
  | nil => rfl
  | cons c rest =>
    obtain ⟨u, more, hc, hu⟩ := toUpper_first c
    rw [upperFirst, hc, List.cons_append, upperFirst, hu]
    rfl

end EntityScaffold.Text

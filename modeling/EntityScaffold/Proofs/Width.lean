import EntityScaffold.Text.Measure
import Mathlib.Tactic.SplitIfs

/-!
Widths of texts side by side. A text is measured from its end, and a space cuts off what stands behind it, so the text
before a space and the text after it are measured each on its own (`measure_append`). A character can give a column
back, but only one that what follows it has taken up before (`Following.owed`), so no text has less than no columns
(`measure_nonneg`). Main statement: `displayWidth_spaced`, widths add up over the spaces between two texts.
-/

namespace EntityScaffold.Text

/-! ## Columns given back -/

/-- the columns that a character before what follows may give back -/
def Following.owed : Following → Int
  | .ligature .coengLetter _ | .ligature .tifinaghJoiner _ | .joinedFlagHalf | .joinedFlagsOdd => 1
  | _ => 0

/-- the columns are no fewer than those that may be given back afterwards, `n` of them having been there before -/
def Covers (n : Int) (r : Int × Ahead) : Prop := r.2.following.owed ≤ n + r.1

theorem Following.owed_nonneg (f : Following) : 0 ≤ f.owed := by
  unfold Following.owed
  split <;> decide

/-- the joiner between the letters of a ligature does not count -/
theorem Following.owed_joined (tail : Tail) (joined joined' : Bool) :
    (Following.ligature tail joined).owed = (Following.ligature tail joined').owed := by
  cases tail <;> rfl

theorem Covers.mono {m n : Int} {r : Int × Ahead} (h : Covers m r) (hle : m ≤ n) : Covers n r :=
  Int.le_trans h (Int.add_le_add_right hle r.1)

theorem covers_plain {n columns : Int} {a : Ahead} (ha : a.following.owed = 0) (h : 0 ≤ n + columns) :
    Covers n (columns, a) := by
  rw [Covers, ha]
  exact h

/-- a Khmer letter that can give its column back has one -/
theorem charColumns_coengLetter {c : Char} (h : isCoengLetter c = true) : 1 ≤ charColumns c := by
  have hletters : ∀ n : Fin 48, 1 ≤ charColumns (Char.ofNat (0x1780 + n)) := by decide +kernel
  have hrange : 0x1780 ≤ c.toNat ∧ c.toNat < 0x1780 + 48 := by
    simp [isCoengLetter, inRanges] at h
    omega
  have hc := hletters ⟨c.toNat - 0x1780, by omega⟩
  rwa [show 0x1780 + (c.toNat - 0x1780) = c.toNat by omega, Char.ofNat_toNat] at hc

/-! ## One character -/

section Step

variable {c : Char}

theorem owed_tail {tail : Tail} (h : Tail.ofChar? c = some tail) :
    (Following.ligature tail false).owed ≤ charColumns c := by
  unfold Tail.ofChar? at h
  split_ifs at h with hlamed hletter
  · cases h
    exact Int.natCast_nonneg _
  · cases h
    exact Int.ofNat_le.2 (charColumns_coengLetter hletter)
  all_goals
    cases h
    exact Int.natCast_nonneg _

theorem covers_alone (c : Char) : Covers 0 (alone c) := by
  have hcolumns : 0 ≤ 0 + (charColumns c : Int) := by omega
  unfold alone Ahead.ofChar
  split_ifs
  case neg =>
    cases htail : Tail.ofChar? c with
    | none => cases KiratVowel.ofChar? c <;> exact covers_plain rfl hcolumns
    | some tail =>
      have howed := owed_tail htail
      rw [Covers, Int.zero_add]
      exact howed
  all_goals exact covers_plain rfl hcolumns

theorem covers_inSequence {f g : Following} {columns : Int} (h : f.inSequence? c = some (columns, g)) :
    Covers f.owed (columns, .bare g) := by
  unfold Following.inSequence? at h
  cases f <;> simp only at h <;> split_ifs at h <;> cases h <;> simp [Covers, Ahead.bare, Following.owed]

theorem covers_tail {tail : Tail} {joined : Bool} {columns : Int} {joinedTail : Option Tail}
    (h : tail.before? joined c = some (columns, joinedTail)) : Covers (Following.ligature tail joined).owed
      (columns, joinedTail.elim .nothing fun tail => .bare (.ligature tail false)) := by
  cases tail <;> simp only [Tail.before?] at h <;> split_ifs at h <;> cases h <;>
    simp [Covers, Ahead.bare, Ahead.nothing, Following.owed]

theorem kirat_nonneg {vowel : KiratVowel} {columns : Int} {joinedVowel : Option KiratVowel}
    (h : vowel.before? c = some (columns, joinedVowel)) : 0 ≤ columns := by
  unfold KiratVowel.before? at h
  split at h <;> cases h <;> decide

theorem covers_following (f : Following) (c : Char) : Covers f.owed (f.before c) := by
  have halone : Covers f.owed (alone c) := (covers_alone c).mono f.owed_nonneg
  unfold Following.before
  split
  · split_ifs
    · exact covers_plain rfl (by decide)
    · exact covers_plain rfl (by decide)
    · exact halone
  · next tail joined =>
    split
    · next h => exact covers_tail h
    · next h => exact covers_tail h
    · exact halone
  · split
    · next h => exact covers_plain rfl ((Int.zero_add _).symm ▸ kirat_nonneg h)
    · next h => exact covers_plain rfl ((Int.zero_add _).symm ▸ kirat_nonneg h)
    · exact halone
  · split
    · next h => exact covers_inSequence h
    · exact halone

theorem covers_unselected (f : Following) (c : Char) : Covers f.owed (f.unselected c) := by
  unfold Following.unselected
  split
  · split_ifs
    · rw [Covers, Int.add_zero]
      exact Int.le_of_eq (Following.owed_joined _ _ _)
    · exact covers_following _ c
  · exact covers_following _ c

end Step

/-! ## Selectors -/

section Selector

variable (a : Ahead)

theorem owed_withoutPicture : a.withoutPicture.following.owed ≤ a.following.owed := by
  unfold Ahead.withoutPicture
  split_ifs
  · exact Int.le_refl _
  · exact Int.le_refl _
  · exact a.following.owed_nonneg

/-- a selector keeps in view what follows, or nothing of it -/
theorem covers_selector {f : Following} (h : f = a.following ∨ f = .plain) (asPicture asPlain asFull : Bool) :
    Covers a.following.owed (0, ⟨f, asPicture, asPlain, asFull⟩) := by
  rw [Covers, Int.add_zero]
  rcases h with rfl | rfl
  · exact Int.le_refl _
  · exact a.following.owed_nonneg

theorem covers_beforeSign (c : Char) : Covers a.following.owed (a.beforeSign c) := by
  have howed := a.following.owed_nonneg
  unfold Ahead.beforeSign Ahead.withPicture Ahead.withPlain Ahead.withFull
  split_ifs
  · exact covers_selector a (Or.inl rfl) true a.asPlain a.asFull
  · exact covers_selector a (Or.inr rfl) true false false
  · exact covers_selector a (Or.inl rfl) a.asPicture true a.asFull
  · exact covers_selector a (Or.inr rfl) false true false
  · exact covers_selector a (Or.inl rfl) a.asPicture a.asPlain true
  · exact covers_selector a (Or.inr rfl) false false true
  · exact covers_plain rfl (by omega)
  · exact covers_plain rfl (by omega)
  · exact covers_unselected a.following c

/-- **No character gives back more** than what follows it has taken up. -/
theorem covers_before (c : Char) : Covers a.following.owed (a.before c) := by
  have howed := a.following.owed_nonneg
  unfold Ahead.before
  dsimp only
  split_ifs
  · exact covers_plain rfl (by omega)
  · exact covers_plain rfl (by omega)
  · exact covers_plain rfl (by omega)
  · exact covers_plain rfl (by omega)
  · exact covers_plain rfl (by omega)
  · exact (covers_beforeSign a.withoutPicture c).mono (owed_withoutPicture a)

end Selector

/-! ## Texts -/

theorem measure_cons (c : Char) (rest : List Char) : measure (c :: rest) =
    ((measure rest).1 + ((measure rest).2.before c).1, ((measure rest).2.before c).2) := rfl

theorem owed_le_measure (text : List Char) : (measure text).2.following.owed ≤ (measure text).1 := by
  induction text with
  | nil => exact Int.le_refl _
  | cons c rest ih => exact (covers_before (measure rest).2 c).mono ih

/-- **No text has less than no columns.** -/
theorem measure_nonneg (text : List Char) : 0 ≤ (measure text).1 :=
  Int.le_trans (Following.owed_nonneg _) (owed_le_measure text)

/-- a text is measured on its own before a text that means nothing to it -/
theorem measure_append {b : List Char} (hb : (measure b).2 = .nothing) (a : List Char) :
    measure (a ++ b) = ((measure a).1 + (measure b).1, (measure a).2) := by
  induction a with
  | nil => exact Prod.ext (Int.zero_add _).symm hb
  | cons c a ih =>
    rw [List.cons_append, measure_cons, ih, measure_cons]
    exact Prod.ext (Int.add_right_comm _ _ _) rfl

/-- whatever follows a space, nothing of it matters to what stands before the space -/
theorem before_space (a : Ahead) : a.before ' ' = (1, .nothing) := by
  have hforms : hasTwoForms ' ' = false := by decide
  simp [Ahead.before, hforms]

theorem measure_spaces (n : Nat) (b : List Char) :
    measure (List.replicate (n + 1) ' ' ++ b) = (n + 1 + (measure b).1, .nothing) := by
  induction n with
  | zero =>
    rw [List.replicate_one, List.singleton_append, measure_cons, before_space]
    exact Prod.ext (by simp [Int.add_comm]) rfl
  | succ n ih =>
    rw [List.replicate_succ, List.cons_append, measure_cons, ih, before_space]
    exact Prod.ext (by push_cast; omega) rfl

/-- **Widths add up over spaces**, one at least, between two texts. -/
theorem displayWidth_spaced (a b : List Char) {n : Nat} (hn : 1 ≤ n) :
    displayWidth (a ++ (List.replicate n ' ' ++ b)) = displayWidth a + n + displayWidth b := by
  obtain ⟨m, rfl⟩ := Nat.exists_eq_add_of_le' hn
  have ha := measure_nonneg a
  have hb := measure_nonneg b
  unfold displayWidth
  rw [measure_append (by rw [measure_spaces]), measure_spaces]
  omega

end EntityScaffold.Text

import EntityScaffold.Names
import EntityScaffold.Proofs.Lines

/-!
The characters of derived spellings. Case mappings turn nothing into a punctuation mark (`mem_toLower`,
`mem_toUpper`), so the stem of a file holds letters, numerals and hyphens alone (`mem_kebabCase`), and a resource
has a slash only where the name has one (`slash_not_mem_resource`).
-/

namespace EntityScaffold.Text

/-! ## Case mappings -/

/-- what holds of each code point of ASCII holds of its characters -/
theorem of_ascii {p : Char → Prop} (h : ∀ n : Fin 128, p (Char.ofNat n)) {c : Char} (hc : isAscii c = true) : p c := by
  have hn := h ⟨c.toNat, by simpa [isAscii] using hc⟩
  rwa [Char.ofNat_toNat] at hn

/-- what a list of exceptions gives is listed there -/
theorem expandCase_eq_some {expansions : List (Nat × List Nat)} {c : Char} {chars : List Char}
    (h : expandCase expansions c = some chars) :
    ∃ codes, (c.toNat, codes) ∈ expansions ∧ codes.map Char.ofNat = chars := by
  obtain ⟨codes, hlookup, rfl⟩ := Option.map_eq_some_iff.1 h
  obtain ⟨l1, l2, hl, -⟩ := List.lookup_eq_some_iff.1 hlookup
  exact ⟨codes, by rw [hl]; simp, rfl⟩

/-- a character before the letters of ASCII: a punctuation mark, a digit, a space -/
def IsMark (c : Char) : Prop := 0 < c.toNat ∧ c.toNat ≤ 64

theorem isMark_ofNat {n : Nat} (h : IsMark (Char.ofNat n)) : n ≤ 64 := by
  unfold Char.ofNat at h
  by_cases hn : n.isValidChar
  · rw [dif_pos hn] at h
    exact h.2
  · rw [dif_neg hn] at h
    exact absurd h.1 (by decide)

/-- shifts beyond ASCII lead to no mark -/
theorem isMark_shiftCase {shifts : List CaseShift} (hs : shifts.all fun s => 64 < s.first + s.distance) {c : Char}
    (h : IsMark (shiftCase shifts c)) : shiftCase shifts c = c := by
  unfold shiftCase at h ⊢
  split
  · next s hfind =>
    simp only [hfind] at h
    have hmoves : s.moves c.toNat = true := by simpa using List.find?_some hfind
    have hfirst : 64 < s.first + s.distance := by simpa using List.all_eq_true.1 hs s (List.mem_of_find?_eq_some hfind)
    have hn := isMark_ofNat h
    simp only [CaseShift.moves, Bool.and_eq_true, decide_eq_true_eq] at hmoves
    omega
  · rfl

theorem isMark_expandCase {expansions : List (Nat × List Nat)} (hs : expansions.all fun e => e.2.all (64 < ·))
    {c m : Char} {chars : List Char} (h : expandCase expansions c = some chars) (hm : m ∈ chars) : ¬IsMark m := by
  obtain ⟨codes, hmem, rfl⟩ := expandCase_eq_some h
  obtain ⟨n, hn, rfl⟩ := List.mem_map.1 hm
  have hall : 64 < n := by simpa using List.all_eq_true.1 (List.all_eq_true.1 hs _ hmem) n hn
  exact fun h => absurd (isMark_ofNat h) (by omega)

/-- in ASCII the letters of both cases stand behind the marks -/
theorem isMark_toLower_ascii {c : Char} (h : IsMark c.toLower) : c.toLower = c := by
  unfold Char.toLower at h ⊢
  split
  · next hc =>
    rw [dif_pos hc] at h
    have hle := h.2
    simp only [Char.toNat, UInt32.toNat_add, UInt32.le_iff_toNat_le, UInt32.reduceToNat,
      UInt32.reduceSub, Char.reduceVal] at hc hle
    omega
  · rfl

theorem isMark_toUpper_ascii {c : Char} (h : IsMark c.toUpper) : c.toUpper = c := by
  unfold Char.toUpper at h ⊢
  split
  · next hc =>
    rw [dif_pos hc] at h
    have hle := h.2
    simp only [Char.toNat, UInt32.toNat_add, UInt32.le_iff_toNat_le, UInt32.reduceToNat,
      UInt32.reduceSub, Char.reduceVal] at hc hle
    omega
  · rfl

theorem mem_toLower {c m : Char} (h : m ∈ toLower c) (hm : IsMark m) : c = m := by
  unfold toLower at h
  split at h
  · rw [List.mem_singleton] at h
    subst h
    exact (isMark_toLower_ascii hm).symm
  · cases hx : expandCase toLowerExpansions c with
    | some chars =>
      rw [hx] at h
      exact absurd hm (isMark_expandCase (by decide) hx h)
    | none =>
      rw [hx, Option.getD_none, List.mem_singleton] at h
      subst h
      exact (isMark_shiftCase (by decide) hm).symm

theorem mem_toUpper {c m : Char} (h : m ∈ toUpper c) (hm : IsMark m) : c = m := by
  unfold toUpper at h
  split at h
  · rw [List.mem_singleton] at h
    subst h
    exact (isMark_toUpper_ascii hm).symm
  · cases hx : expandCase toUpperExpansions c with
    | some chars =>
      rw [hx] at h
      exact absurd hm (isMark_expandCase (by decide) hx h)
    | none =>
      rw [hx, Option.getD_none, List.mem_singleton] at h
      subst h
      exact (isMark_shiftCase (by decide) hm).symm

/-! ## File stems -/

theorem mem_cutWords {w : WordCase} {word rest : List Char} {piece : List Char} (h : piece ∈ cutWords w word rest)
    {c : Char} (hc : c ∈ piece) : c ∈ word ∨ c ∈ rest := by
  fun_induction cutWords w word rest with
  | case1 => simp_all
  | case2 => simp_all
  | case3 w word c next rest hcut ih =>
    rcases List.mem_cons.1 h with rfl | h
    · simp only [List.mem_append, List.mem_singleton] at hc
      rcases hc with hc | rfl <;> simp_all
    · have := ih h
      simp_all
  | case4 w word c next rest h1 hcut ih =>
    rcases List.mem_cons.1 h with rfl | h
    · exact Or.inl hc
    · have := ih h
      simp_all
  | case5 w word c next rest h1 h2 ih =>
    have := ih h
    simp only [List.mem_append, List.mem_cons] at this ⊢
    tauto

theorem mem_splitOnP {p : Char → Bool} {text piece : List Char} (h : piece ∈ text.splitOnP p) :
    ∀ c ∈ piece, c ∈ text ∧ p c = false := by
  induction text generalizing piece with
  | nil => simp_all
  | cons d text ih =>
    rw [List.splitOnP_cons_eq_if_modifyHead] at h
    obtain ⟨first, rest, hsplit⟩ := List.exists_cons_of_ne_nil (List.splitOnP_ne_nil p text)
    rw [hsplit] at h ih
    intro c hc
    split at h
    · rcases List.mem_cons.1 h with rfl | h
      · cases hc
      · exact ⟨List.mem_cons_of_mem _ (ih h c hc).1, (ih h c hc).2⟩
    · next hd =>
      rcases List.mem_cons.1 h with rfl | h
      · rcases List.mem_cons.1 hc with rfl | hc
        · exact ⟨List.mem_cons_self, by simpa using hd⟩
        · exact ⟨List.mem_cons_of_mem _ (ih List.mem_cons_self c hc).1, (ih List.mem_cons_self c hc).2⟩
      · have := ih (List.mem_cons_of_mem _ h) c hc
        exact ⟨List.mem_cons_of_mem _ this.1, this.2⟩

/-- the words of an identifier hold letters and numerals -/
theorem mem_identifierWords {text word : List Char} (h : word ∈ identifierWords text) {c : Char} (hc : c ∈ word) :
    isAlphanumeric c = true := by
  obtain ⟨piece, hpiece, hword⟩ := List.mem_flatMap.1 h
  rcases mem_cutWords hword hc with hc | hc
  · cases hc
  · simpa using (mem_splitOnP (List.mem_filter.1 hpiece).1 c hc).2

theorem mem_lowerWord {word : List Char} {m : Char} (h : m ∈ lowerWord word) (hm : IsMark m) : m ∈ word := by
  fun_induction lowerWord word with
  | case1 => cases h
  | case2 => exact absurd hm (by rw [List.mem_singleton.1 h]; unfold IsMark; decide)
  | case3 c => rw [mem_toLower h hm]; exact List.mem_singleton_self m
  | case4 c rest _ ih =>
    rcases List.mem_append.1 h with h | h
    · rw [mem_toLower h hm]; exact List.mem_cons_self
    · exact List.mem_cons_of_mem _ (ih h)

/-- the marks of a stem are hyphens and digits -/
theorem mem_kebabCase {text : List Char} {m : Char} (h : m ∈ kebabCase text) (hm : IsMark m) :
    m = '-' ∨ isAlphanumeric m = true := by
  rcases mem_intercalate h with h | ⟨word, hword, h⟩
  · exact Or.inl (List.mem_singleton.1 h)
  · obtain ⟨original, horiginal, rfl⟩ := List.mem_map.1 hword
    exact Or.inr (mem_identifierWords horiginal (mem_lowerWord h hm))

theorem slash_not_mem_kebabCase (text : List Char) : '/' ∉ kebabCase text :=
  fun h => absurd (mem_kebabCase h (by unfold IsMark; decide)) (by decide)

theorem dot_not_mem_kebabCase (text : List Char) : '.' ∉ kebabCase text :=
  fun h => absurd (mem_kebabCase h (by unfold IsMark; decide)) (by decide)

/-! ## Resources -/

theorem mem_lowerAfter {before text : List Char} {m : Char} (h : m ∈ lowerAfter before text) (hm : IsMark m) :
    m ∈ text := by
  fun_induction lowerAfter before text with
  | case1 => cases h
  | case2 before c rest ih =>
    rcases List.mem_append.1 h with h | h
    · split at h
      · rw [List.mem_singleton] at h
        split at h <;> exact absurd hm (by rw [h]; unfold IsMark; decide)
      · rw [mem_toLower h hm]; exact List.mem_cons_self
    · exact List.mem_cons_of_mem _ (ih h)

theorem mem_takeBytes {n : Nat} {text taken : List Char} (h : takeBytes n text = some taken) {c : Char}
    (hc : c ∈ taken) : c ∈ text := by
  fun_induction takeBytes n text generalizing taken with
  | case1 => cases h; cases hc
  | case2 => cases h
  | case3 n d rest _ ih =>
    obtain ⟨tail, htail, rfl⟩ := Option.map_eq_some_iff.1 h
    rcases List.mem_cons.1 hc with rfl | hc
    · exact List.mem_cons_self
    · exact List.mem_cons_of_mem _ (ih htail hc)
  | case4 => cases h

theorem mem_upperFirst {text : List Char} {m : Char} (h : m ∈ upperFirst text) (hm : IsMark m) : m ∈ text := by
  cases text with
  | nil => cases h
  | cons c rest =>
    rcases List.mem_append.1 h with h | h
    · rw [mem_toUpper h hm]; exact List.mem_cons_self
    · exact List.mem_cons_of_mem _ h

theorem irregular?_singular {lower replacement : List Char} (h : irregular? lower = some (.singular replacement)) :
    ∃ entry ∈ irregularPlurals, lower = entry.1.toList ∧ replacement = entry.2.toList := by
  obtain ⟨entry, hentry, h⟩ := List.exists_of_findSome?_eq_some h
  refine ⟨entry, hentry, ?_⟩
  split at h
  · cases h
  · split at h
    · next hsingular => cases h; exact ⟨hsingular, rfl⟩
    · cases h

theorem irregular?_plural {lower : List Char} (h : irregular? lower = some .plural) :
    ∃ entry ∈ irregularPlurals, lower = entry.2.toList := by
  obtain ⟨entry, hentry, h⟩ := List.exists_of_findSome?_eq_some h
  refine ⟨entry, hentry, ?_⟩
  split at h
  · next hl => exact hl
  · split at h <;> cases h

/-- the plural of a word by its ending: the word itself where it ends in an `s`, else a part of it, which ends where
the word does or earlier, and an ending of the plural -/
theorem pluralByEnding_eq {word lower plural : List Char} (h : pluralByEnding word lower = some plural) :
    (plural = word ∧ 's' ∈ lower) ∨
      ∃ stem ending, plural = stem ++ ending ∧ (∀ c ∈ stem, c ∈ word) ∧
        ending ∈ ["s", "es", "ies"].map String.toList := by
  unfold pluralByEnding at h
  split at h
  · next hs =>
    cases h
    simp only [Bool.and_eq_true] at hs
    refine Or.inl ⟨rfl, ?_⟩
    obtain ⟨init, hinit⟩ := List.isSuffixOf_iff_suffix.1 hs.1
    rw [← hinit]
    simp
  right
  split at h
  · obtain ⟨stem, hstem, rfl⟩ := Option.map_eq_some_iff.1 h
    exact ⟨stem, _, rfl, fun c hc => mem_takeBytes hstem hc, by simp⟩
  split at h
  · cases h
    exact ⟨word, _, rfl, fun _ hc => hc, by simp⟩
  split at h
  · obtain ⟨stem, hstem, rfl⟩ := Option.map_eq_some_iff.1 h
    exact ⟨stem, _, rfl, fun c hc => mem_takeBytes hstem hc, by simp⟩
  · cases h
    exact ⟨word, _, rfl, fun _ hc => hc, by simp⟩

theorem mem_pluralWord {word plural : List Char} (h : pluralWord word = some plural) {m : Char} (hm : m ∈ plural)
    (hmark : IsMark m) : m ∈ word := by
  unfold pluralWord at h
  dsimp only at h
  split at h
  · cases h; exact hm
  split at h
  · cases h; exact hm
  · next replacement hirr =>
    cases h
    obtain ⟨entry, hentry, -, rfl⟩ := irregular?_singular hirr
    have hletters : irregularPlurals.all fun e => e.2.toList.all fun c => 64 < c.toNat := by decide
    have hentry : m ∉ entry.2.toList := fun hmem => by
      have := List.all_eq_true.1 (List.all_eq_true.1 hletters entry hentry) m hmem
      exact absurd hmark.2 (by simpa using this)
    unfold matchCase at hm
    split at hm
    · split at hm
      · exact absurd (mem_upperFirst hm hmark) hentry
      · exact absurd hm hentry
    · exact absurd hm hentry
  · rcases pluralByEnding_eq h with ⟨rfl, -⟩ | ⟨stem, ending, rfl, hstem, hending⟩
    · exact hm
    · rcases List.mem_append.1 hm with hm | hm
      · exact hstem m hm
      · have hletters : (["s", "es", "ies"].map String.toList).all fun e => e.all fun c => 64 < c.toNat := by decide
        have := List.all_eq_true.1 (List.all_eq_true.1 hletters ending hending) m hm
        exact absurd hmark.2 (by simpa using this)

theorem splitLastUpper_append {text head word : List Char} (h : splitLastUpper text = some (head, word)) :
    head ++ word = text := by
  fun_induction splitLastUpper text generalizing head with
  | case1 => cases h
  | case2 c rest head' word' hrest ih => cases h; rw [List.cons_append, ih hrest]
  | case3 => cases h; rfl
  | case4 => cases h

theorem splitLastWord_append (text : List Char) : (splitLastWord text).1 ++ (splitLastWord text).2 = text := by
  unfold splitLastWord
  split
  · rfl
  · split
    · next hrest => rw [List.cons_append, splitLastUpper_append hrest]
    · rfl

theorem mem_plural {text t : List Char} (h : plural text = some t) {m : Char} (hm : m ∈ t) (hmark : IsMark m) :
    m ∈ text := by
  obtain ⟨word, hword, rfl⟩ := Option.map_eq_some_iff.1 h
  rw [← splitLastWord_append text]
  rcases List.mem_append.1 hm with hm | hm
  · exact List.mem_append_left _ hm
  · exact List.mem_append_right _ (mem_pluralWord hword hm hmark)

/-! ## Names of dots alone -/

/-- the text holds nothing but full stops -/
def AllDots (text : List Char) : Prop := ∀ c ∈ text, c = '.'

theorem lowerAfter_allDots {before text : List Char} (h : AllDots text) : AllDots (lowerAfter before text) := by
  fun_induction lowerAfter before text with
  | case1 => exact h
  | case2 before c rest ih =>
    have hc : c = '.' := h c List.mem_cons_self
    subst hc
    intro m hm
    rcases List.mem_append.1 hm with hm | hm
    · simpa [toLower, isAscii] using hm
    · exact ih (fun x hx => h x (List.mem_cons_of_mem _ hx)) m hm

theorem expandCase_ne_nil {expansions : List (Nat × List Nat)} {c : Char} {chars : List Char}
    (hall : expansions.all (fun e => !e.2.isEmpty) = true) (h : expandCase expansions c = some chars) : chars ≠ [] := by
  obtain ⟨codes, hmem, rfl⟩ := expandCase_eq_some h
  simpa using List.all_eq_true.1 hall _ hmem

theorem toLower_ne_nil (c : Char) : toLower c ≠ [] := by
  unfold toLower
  split
  · simp
  · cases hx : expandCase toLowerExpansions c with
    | none => simp
    | some chars => exact expandCase_ne_nil (by decide) hx

/-- only full stops give full stops in lower case -/
theorem allDots_of_lowerAfter {before text : List Char} (h : AllDots (lowerAfter before text)) : AllDots text := by
  fun_induction lowerAfter before text with
  | case1 => exact h
  | case2 before c rest ih =>
    intro m hm
    rcases List.mem_cons.1 hm with rfl | hm
    · obtain ⟨d, lower, hd⟩ := List.exists_cons_of_ne_nil (toLower_ne_nil m)
      have hdot : d = '.' ∨ m = 'Σ' := by
        by_cases hsigma : m = 'Σ'
        · exact Or.inr hsigma
        · exact Or.inl (h d (List.mem_append_left _ (by rw [if_neg hsigma, hd]; exact List.mem_cons_self)))
      rcases hdot with rfl | rfl
      · exact mem_toLower (hd ▸ List.mem_cons_self) (by unfold IsMark; decide)
      · have := h _ (List.mem_append_left _ (by rw [if_pos rfl]; exact List.mem_singleton_self _))
        split at this <;> exact absurd this (by decide)
    · exact ih (fun x hx => h x (List.mem_append_right _ hx)) m hm

theorem not_allDots {text : List Char} (h : text.any (· ≠ '.') = true) : ¬AllDots text := by
  obtain ⟨c, hc, hne⟩ := List.any_eq_true.1 h
  exact fun hall => absurd (hall c hc) (by simpa using hne)

theorem not_allDots_pluralWord {original word : List Char} (h : pluralWord original = some word)
    (hne : original ≠ []) : ¬AllDots word := by
  intro hdots
  unfold pluralWord at h
  dsimp only at h
  split at h
  · next hknown =>
    cases h
    simp only [Bool.or_eq_true, decide_eq_true_eq, hne, false_or, List.any_eq_true] at hknown
    obtain ⟨w, hw, hlower⟩ := hknown
    have hall : uncountables.all fun w => w.toList.any (· ≠ '.') := by decide
    exact not_allDots (List.all_eq_true.1 hall w hw) (hlower ▸ lowerAfter_allDots hdots)
  have hentries : irregularPlurals.all fun e => e.2.toList.any (· ≠ '.') && (upperFirst e.2.toList).any (· ≠ '.') := by
    decide
  split at h
  · next hirr =>
    cases h
    obtain ⟨entry, hentry, hlower⟩ := irregular?_plural hirr
    have := (Bool.and_eq_true_iff.1 (List.all_eq_true.1 hentries entry hentry)).1
    exact not_allDots this (hlower ▸ lowerAfter_allDots hdots)
  · next replacement hirr =>
    cases h
    obtain ⟨entry, hentry, -, rfl⟩ := irregular?_singular hirr
    obtain ⟨h1, h2⟩ := Bool.and_eq_true_iff.1 (List.all_eq_true.1 hentries entry hentry)
    unfold matchCase at hdots
    split at hdots
    · split at hdots
      · exact not_allDots h2 hdots
      · exact not_allDots h1 hdots
    · exact not_allDots h1 hdots
  · rcases pluralByEnding_eq h with ⟨rfl, hs⟩ | ⟨stem, ending, rfl, -, hending⟩
    · exact absurd (lowerAfter_allDots hdots _ hs) (by decide)
    · have hall : (["s", "es", "ies"].map String.toList).all fun e => e.any (· ≠ '.') := by decide
      exact not_allDots (List.all_eq_true.1 hall ending hending) fun c hc => hdots c (List.mem_append_right _ hc)

theorem splitLastUpper_ne_nil {text head word : List Char} (h : splitLastUpper text = some (head, word)) :
    word ≠ [] := by
  fun_induction splitLastUpper text generalizing head with
  | case1 => cases h
  | case2 c rest head' word' hrest ih => cases h; exact ih hrest
  | case3 => cases h; exact List.cons_ne_nil _ _
  | case4 => cases h

theorem splitLastWord_ne_nil {text : List Char} (h : text ≠ []) : (splitLastWord text).2 ≠ [] := by
  unfold splitLastWord
  split
  · exact absurd rfl h
  · split
    · next hrest => exact splitLastUpper_ne_nil hrest
    · exact List.cons_ne_nil _ _

/-- a plural is never a name of dots alone, since it ends like a word -/
theorem not_allDots_plural {text t : List Char} (h : plural text = some t) (hne : text ≠ []) : ¬AllDots t := by
  obtain ⟨word, hword, rfl⟩ := Option.map_eq_some_iff.1 h
  exact fun hdots => not_allDots_pluralWord hword (splitLastWord_ne_nil hne) fun c hc =>
    hdots c (List.mem_append_right _ hc)

end EntityScaffold.Text

namespace EntityScaffold

open Text

/-! ## Spellings -/

theorem names_of?_eq {declared : String} {n : Names} (h : Names.of? declared = some n) : ∃ t,
    plural (Text.upperFirst declared.toList) = some t ∧ n.resource = String.ofList (lowerText t) ∧
      n.fileStem = String.ofList (kebabCase (Text.upperFirst declared.toList)) := by
  obtain ⟨t, ht, rfl⟩ := Option.map_eq_some_iff.1 h
  exact ⟨t, ht, rfl, rfl⟩

theorem slash_not_mem_fileStem {declared : String} {n : Names} (h : Names.of? declared = some n) :
    '/' ∉ n.fileStem.toList := by
  obtain ⟨t, -, -, hstem⟩ := names_of?_eq h
  rw [hstem, String.toList_ofList]
  exact slash_not_mem_kebabCase _

theorem dot_not_mem_fileStem {declared : String} {n : Names} (h : Names.of? declared = some n) :
    '.' ∉ n.fileStem.toList := by
  obtain ⟨t, -, -, hstem⟩ := names_of?_eq h
  rw [hstem, String.toList_ofList]
  exact dot_not_mem_kebabCase _

theorem slash_not_mem_resource {declared : String} {n : Names} (h : Names.of? declared = some n)
    (hslash : '/' ∉ declared.toList) : '/' ∉ n.resource.toList := by
  have hmark : IsMark '/' := by unfold IsMark; decide
  obtain ⟨t, ht, hresource, -⟩ := names_of?_eq h
  rw [hresource, String.toList_ofList]
  exact fun hm => hslash (mem_upperFirst (mem_plural ht (mem_lowerAfter hm hmark) hmark) hmark)

/-- no resource is `..` -/
theorem resource_ne_up {declared : String} {n : Names} (h : Names.of? declared = some n) : n.resource ≠ ".." := by
  obtain ⟨t, ht, hresource, -⟩ := names_of?_eq h
  intro hup
  have hlow : AllDots (lowerText t) := by
    have : lowerText t = "..".toList := by rw [← hup, hresource, String.toList_ofList]
    rw [this]
    exact List.forall_mem_cons.2 ⟨rfl, List.forall_mem_singleton.2 rfl⟩
  by_cases hne : Text.upperFirst declared.toList = []
  · rw [hne] at ht
    cases ht
    rw [hresource] at hup
    exact absurd hup (by decide)
  · exact not_allDots_plural ht hne (allDots_of_lowerAfter hlow)

end EntityScaffold

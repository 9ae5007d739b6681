import EntityScaffold.Artifact.Endpoint
import EntityScaffold.Proofs.Capital
import EntityScaffold.Proofs.Offset
import EntityScaffold.Proofs.Spelling

/-!
Plurals of plurals. The rules take most plurals for plurals: a word known by itself stays, and so does a text that ends
in `s` unless the letter before it is `s`, `u` or `i` (`pluralWord_kept`). Two of the three are endings that the rules
make themselves: a name that ends in `i` or `u` gets an `s`, and the `is` or `us` is then taken for a singular. So a
plural is its own plural exactly when the name does not end in one of these (`plural_idem_iff`), and only then does an
entity that is declared in the plural share resource and routes with one in the singular (`Names.of?_plural`).
-/

namespace EntityScaffold.Text

/-! ## Lower case at the end of a text -/

theorem lowerAfter_append (before front tail : List Char) :
    ∃ x, lowerAfter before (front ++ tail) = x ++ lowerAfter (front.reverse ++ before) tail := by
  induction front generalizing before with
  | nil => exact ⟨[], rfl⟩
  | cons c front ih =>
    obtain ⟨x, hx⟩ := ih (c :: before)
    rw [List.cons_append, lowerAfter, hx, List.reverse_cons, List.append_assoc, List.singleton_append,
      ← List.append_assoc]
    exact ⟨_, rfl⟩

/-- the letter ends in lower case with `d`; a capital sigma ends with either small one -/
def LowersTo (c d : Char) : Prop :=
  if c = 'Σ' then d = 'σ' ∨ d = 'ς' else (toLower c).getLast? = some d

/-- the endings that the rules add are in lower case -/
def IsSmall (tail : List Char) : Prop := ∀ before, lowerAfter before tail = tail

theorem isSmall_nil : IsSmall [] := fun _ => rfl

theorem isSmall_s : IsSmall ['s'] := fun _ => rfl

theorem isSmall_es : IsSmall ['e', 's'] := fun _ => rfl

/-- a text in lower case, by its last letter before an ending -/
theorem lowerText_ending (front : List Char) (c : Char) {tail : List Char} (h : IsSmall tail) :
    ∃ x d, LowersTo c d ∧ lowerText (front ++ c :: tail) = x ++ d :: tail := by
  obtain ⟨x, hx⟩ := lowerAfter_append [] front (c :: tail)
  rw [lowerText, hx, lowerAfter, h]
  unfold LowersTo
  split
  · split
    · exact ⟨x, 'ς', Or.inr rfl, rfl⟩
    · exact ⟨x, 'σ', Or.inl rfl, rfl⟩
  · obtain ⟨init, d, hd⟩ := (List.eq_nil_or_concat' (toLower c)).resolve_left (toLower_ne_nil c)
    exact ⟨x ++ init, d, by rw [hd, List.getLast?_concat], by rw [hd]; simp⟩

/-- the letters that end in lower case with `i` or `u` -/
def vowelsIU : List Char := ['i', 'I', 'u', 'U']

/-- beyond ASCII no letter ends in lower case with `i` or `u` -/
theorem toLower_vowel {c d : Char} (h : (toLower c).getLast? = some d) (hd : d ∈ ['i', 'u']) : c ∈ vowelsIU := by
  unfold toLower at h
  by_cases hc : isAscii c = true
  · have hvowel := of_ascii (p := fun c => c.toLower ∈ ['i', 'u'] → c ∈ vowelsIU) (by decide +kernel) hc
    rw [if_pos hc] at h
    obtain rfl := Option.some.inj h
    exact hvowel hd
  · rw [if_neg hc] at h
    cases hexpansion : expandCase toLowerExpansions c with
    | some chars =>
      have hlast : ∀ e ∈ toLowerExpansions, ∀ d, (e.2.map Char.ofNat).getLast? = some d → d ∉ ['i', 'u'] := by
        simp [toLowerExpansions]
      obtain ⟨codes, hmem, rfl⟩ := expandCase_eq_some hexpansion
      rw [hexpansion] at h
      exact absurd hd (hlast _ hmem d h)
    | none =>
      rw [hexpansion] at h
      obtain rfl := Option.some.inj h
      unfold shiftCase at hd
      cases hshift : toLowerShifts.find? (·.moves c.toNat) with
      | none =>
        rw [hshift] at hd
        have hsmall : ['i', 'u'].all isAscii = true := by decide
        exact absurd (List.all_eq_true.1 hsmall c hd) hc
      | some s =>
        -- the images of each run lie on one side of both letters
        have himages : ∀ s ∈ toLowerShifts, ∀ n ∈ [105, 117],
            (n : Int) < s.first + s.distance ∨ s.last + s.distance < n := by decide +kernel
        have hmoves : s.moves c.toNat = true := by simpa using List.find?_some hshift
        simp only [CaseShift.moves, Bool.and_eq_true, decide_eq_true_eq] at hmoves
        simp only [hshift, List.mem_cons, List.not_mem_nil, or_false] at hd
        rcases hd with hd | hd
        · have hside := himages s (List.mem_of_find?_eq_some hshift) 105 (by decide)
          have hn : _ = 105 := eq_toNat_of_ofNat hd (by decide)
          omega
        · have hside := himages s (List.mem_of_find?_eq_some hshift) 117 (by decide)
          have hn : _ = 117 := eq_toNat_of_ofNat hd (by decide)
          omega

/-- the letters are told by what they end with -/
theorem LowersTo.vowel_iff {c d : Char} (h : LowersTo c d) : d ∈ ['i', 'u'] ↔ c ∈ vowelsIU := by
  unfold LowersTo at h
  split at h
  · next hc =>
    subst hc
    rcases h with rfl | rfl <;> decide
  · refine ⟨toLower_vowel h, fun hc => ?_⟩
    have hvowels : vowelsIU.all (fun c => (toLower c).getLast?.all (['i', 'u'].contains ·)) = true := by decide
    have hlast := List.all_eq_true.1 hvowels c hc
    rw [h] at hlast
    exact List.contains_iff_mem.1 hlast

/-- what a letter ends with is a small `s` always or never -/
theorem LowersTo.s_iff {c d d' : Char} (h : LowersTo c d) (h' : LowersTo c d') : d = 's' ↔ d' = 's' := by
  unfold LowersTo at h h'
  split at h
  · next hc =>
    rw [if_pos hc] at h'
    rcases h with rfl | rfl <;> rcases h' with rfl | rfl <;> decide
  · next hc =>
    rw [if_neg hc] at h'
    rw [Option.some.inj (h.symm.trans h')]

/-! ## Words that are known -/

section Known

variable {word lower x w : List Char} {d : Char}

theorem irregular?_s {plural : List Char} : irregular? (x ++ ['s']) ≠ some (.singular plural) := by
  intro h
  obtain ⟨entry, hentry, hlower, -⟩ := irregular?_singular h
  have hlast : ∀ entry ∈ irregularPlurals, entry.1.toList.getLast? ≠ some 's' := by decide
  exact hlast entry hentry (hlower ▸ List.getLast?_concat)

/-- no word that is known ends in `i` or `u`, with an `s` behind it or without -/
theorem known_vowel (hd : d ∈ ['i', 'u']) {tail : List Char} (htail : tail ∈ [[], ['s']]) :
    uncountables.any (fun w => w.toList = x ++ d :: tail) = false ∧ irregular? (x ++ d :: tail) = none := by
  have hwords : ∀ w ∈ uncountables ++ irregularPlurals.map Prod.fst ++ irregularPlurals.map Prod.snd,
      ∀ tail ∈ [[], ['s']], ['i', 'u'].all (fun d => !(d :: tail).isSuffixOf w.toList) = true := by decide
  have hnot : ∀ w ∈ uncountables ++ irregularPlurals.map Prod.fst ++ irregularPlurals.map Prod.snd,
      x ++ d :: tail ≠ w.toList := by
    intro w hw heq
    have hends := List.all_eq_true.1 (hwords w hw tail htail) d hd
    rw [← heq, List.isSuffixOf_iff_suffix.2 (List.suffix_append x _)] at hends
    cases hends
  constructor
  · refine List.any_eq_false.2 fun w hw => ?_
    simpa using (hnot w (by simp [hw])).symm
  · refine List.findSome?_eq_none_iff.2 fun entry hentry => ?_
    have hplural := hnot entry.2 (List.mem_append_right _ (List.mem_map_of_mem hentry))
    have hsingular := hnot entry.1
      (List.mem_append_left _ (List.mem_append_right _ (List.mem_map_of_mem hentry)))
    simp [hplural, hsingular]

theorem pluralWord_unknown (h : uncountables.any (fun w => w.toList = lowerText word) = false)
    (h' : irregular? (lowerText word) = none) (hne : word ≠ []) :
    pluralWord word = pluralByEnding word (lowerText word) := by
  simp only [pluralWord, h, h', hne, decide_false, Bool.or_false, Bool.false_eq_true, if_false]

end Known

/-! ## Endings -/

section Endings

variable {word x w : List Char} {d : Char}

theorem endsWith_concat (x : List Char) (c : Char) (ending : String) :
    endsWith (x ++ [c]) ending = ending.toList.reverse.isPrefixOf (c :: x.reverse) := by
  rw [endsWith, List.isSuffixOf, List.reverse_append]
  rfl

/-- **Plurals that are kept**: an `s` behind a letter other than `s`, `i` and `u`. -/
theorem pluralWord_kept (h : lowerText word = x ++ [d, 's']) (hd : d ∉ ['s', 'i', 'u']) :
    pluralWord word = some word := by
  have hsplit : x ++ [d, 's'] = (x ++ [d]) ++ ['s'] := by simp
  have hbyEnding : pluralByEnding word (lowerText word) = some word := by
    simp only [List.mem_cons, List.not_mem_nil, or_false, not_or] at hd
    have hends : (endsWith (x ++ [d] ++ ['s']) "s" && !(endsWith (x ++ [d] ++ ['s']) "ss" ||
        endsWith (x ++ [d] ++ ['s']) "us" || endsWith (x ++ [d] ++ ['s']) "is")) = true := by
      simp only [endsWith_concat]
      simp [List.isPrefixOf, Ne.symm hd.1, Ne.symm hd.2.1, Ne.symm hd.2.2]
    rw [pluralByEnding, h, hsplit, if_pos hends]
  unfold pluralWord
  dsimp only
  split
  · rfl
  · split
    · rfl
    · next plural hsingular =>
      rw [h, hsplit] at hsingular
      exact absurd hsingular irregular?_s
    · exact hbyEnding

/-- **Names that end in `i` or `u`** get an `s`. -/
theorem pluralWord_vowel (h : lowerText word = x ++ [d]) (hd : d ∈ ['i', 'u']) :
    pluralWord word = some (word ++ ['s']) := by
  obtain ⟨huncountable, hirregular⟩ := known_vowel (x := x) hd (List.mem_cons_self : [] ∈ [[], ['s']])
  have hne : word ≠ [] := by
    rintro rfl
    exact absurd h.symm (List.append_ne_nil_of_right_ne_nil x (List.cons_ne_nil d []))
  rw [pluralWord_unknown (h ▸ huncountable) (h ▸ hirregular) hne, h]
  simp only [List.mem_cons, List.not_mem_nil, or_false] at hd
  unfold pluralByEnding hasConsonantY
  simp only [endsWith_concat, List.any_cons, List.any_nil]
  rcases hd with rfl | rfl <;> simp [List.isPrefixOf]

/-- **Their plurals** are taken for singulars and end otherwise. -/
theorem pluralWord_vowel_s (h : lowerText word = x ++ [d, 's']) (hd : d ∈ ['i', 'u']) (hw : pluralWord word = some w) :
    ∃ y, w = y ++ ['e', 's'] := by
  obtain ⟨huncountable, hirregular⟩ := known_vowel (x := x) hd (by simp : ['s'] ∈ [[], ['s']])
  have hne : word ≠ [] := by
    rintro rfl
    exact absurd h.symm (List.append_ne_nil_of_right_ne_nil x (List.cons_ne_nil d ['s']))
  have hsplit : x ++ [d, 's'] = (x ++ [d]) ++ ['s'] := by simp
  rw [pluralWord_unknown (h ▸ huncountable) (h ▸ hirregular) hne, h, hsplit] at hw
  simp only [List.mem_cons, List.not_mem_nil, or_false] at hd
  unfold pluralByEnding at hw
  simp only [endsWith_concat, List.any_cons, List.any_nil] at hw
  rcases hd with rfl | rfl
  · simp only [List.reverse_append] at hw
    obtain ⟨stem, -, rfl⟩ := Option.map_eq_some_iff.1 (by simpa [List.isPrefixOf] using hw)
    exact ⟨stem, rfl⟩
  · refine ⟨word, ?_⟩
    have hw' : some (word ++ ['e', 's']) = some w := by simpa [List.isPrefixOf] using hw
    exact (Option.some.inj hw').symm

/-- what the plural of a word looks like -/
inductive PluralShape (word : List Char) : List Char → Prop
  | kept : PluralShape word word
  | irregular {entry : String × String} (hentry : entry ∈ irregularPlurals) :
      PluralShape word (matchCase word entry.2.toList)
  /-- a part of the word with another ending -/
  | replaced {stem rest tail : List Char} (hword : word = stem ++ rest) (htail : tail ∈ ["es".toList, "ies".toList]) :
      PluralShape word (stem ++ tail)
  | added (h : ∀ x, lowerText word ≠ x ++ ['s']) : PluralShape word (word ++ ['s'])

theorem pluralByEnding_shape (h : pluralByEnding word (lowerText word) = some w) : PluralShape word w := by
  have hes : "es".toList ∈ ["es".toList, "ies".toList] := List.mem_cons_self
  have hies : "ies".toList ∈ ["es".toList, "ies".toList] := List.mem_cons_of_mem _ List.mem_cons_self
  unfold pluralByEnding at h
  split at h
  · cases h
    exact .kept
  · next hs =>
    split at h
    · obtain ⟨stem, hstem, rfl⟩ := Option.map_eq_some_iff.1 h
      obtain ⟨rest, hword, -⟩ := takeBytes_eq_some.1 hstem
      exact .replaced hword hes
    · next his =>
      split at h
      · cases h
        exact .replaced (List.append_nil word).symm hes
      · next hothers =>
        split at h
        · obtain ⟨stem, hstem, rfl⟩ := Option.map_eq_some_iff.1 h
          obtain ⟨rest, hword, -⟩ := takeBytes_eq_some.1 hstem
          exact .replaced hword hies
        · cases h
          refine .added fun x hlower => ?_
          have hends : endsWith (lowerText word) "s" = true := by simp [hlower, endsWith_concat, List.isPrefixOf]
          simp only [List.any_cons, Bool.or_eq_true, not_or] at hothers
          simp [hends, his, hothers.1, hothers.2.2.2.2.2.1] at hs

theorem pluralWord_shape (h : pluralWord word = some w) : PluralShape word w := by
  unfold pluralWord at h
  dsimp only at h
  split at h
  · cases h
    exact .kept
  · split at h
    · cases h
      exact .kept
    · next plural hsingular =>
      cases h
      obtain ⟨entry, hentry, -, rfl⟩ := irregular?_singular hsingular
      exact .irregular hentry
    · exact pluralByEnding_shape h

end Endings

/-! ## The last word -/

/-- a text is split before its last word: the word starts in upper case unless it is the whole text, and has no other
letter in upper case -/
structure IsLastWord (head word : List Char) : Prop where
  start : head ≠ [] → word.head?.any isUpper = true
  rest : word.tail.any isUpper = false

section LastWord

variable {text head word tail : List Char}

theorem splitLastUpper_eq_none : splitLastUpper text = none ↔ text.any isUpper = false := by
  induction text with
  | nil => simp [splitLastUpper]
  | cons c rest ih =>
    rw [splitLastUpper, List.any_cons, Bool.or_eq_false_iff, ← ih]
    cases splitLastUpper rest with
    | none => simp
    | some split => simp

theorem splitLastUpper_word (h : splitLastUpper text = some (head, word)) :
    word.head?.any isUpper = true ∧ word.tail.any isUpper = false := by
  fun_induction splitLastUpper text generalizing head with
  | case1 => cases h
  | case2 c rest head' word' hrest ih => cases h; exact ih hrest
  | case3 c rest hrest hc => cases h; exact ⟨hc, splitLastUpper_eq_none.1 hrest⟩
  | case4 => cases h

theorem splitLastUpper_of_word (hstart : word.head?.any isUpper = true) (hrest : word.tail.any isUpper = false)
    (head : List Char) : splitLastUpper (head ++ word) = some (head, word) := by
  induction head with
  | nil =>
    cases word with
    | nil => cases hstart
    | cons c rest =>
      have hc : isUpper c = true := hstart
      have hrest : rest.any isUpper = false := hrest
      rw [List.nil_append, splitLastUpper, splitLastUpper_eq_none.2 hrest]
      simp [hc]
  | cons c head ih => rw [List.cons_append, splitLastUpper, ih]

theorem splitLastWord_isLastWord (text : List Char) : IsLastWord (splitLastWord text).1 (splitLastWord text).2 := by
  cases text with
  | nil => exact ⟨fun h => absurd rfl h, rfl⟩
  | cons c rest =>
    rw [splitLastWord]
    cases hrest : splitLastUpper rest with
    | none => exact ⟨fun h => absurd rfl h, splitLastUpper_eq_none.1 hrest⟩
    | some split => exact ⟨fun _ => (splitLastUpper_word hrest).1, (splitLastUpper_word hrest).2⟩

theorem IsLastWord.splitLastWord (h : IsLastWord head word) : splitLastWord (head ++ word) = (head, word) := by
  cases head with
  | nil =>
    cases word with
    | nil => rfl
    | cons c rest =>
      have hrest : rest.any isUpper = false := h.rest
      rw [List.nil_append, Text.splitLastWord, splitLastUpper_eq_none.2 hrest]
  | cons c head =>
    rw [List.cons_append, Text.splitLastWord, splitLastUpper_of_word (h.start (List.cons_ne_nil c head)) h.rest]

theorem IsLastWord.plural (h : IsLastWord head word) : plural (head ++ word) = (pluralWord word).map (head ++ ·) := by
  rw [Text.plural, h.splitLastWord]

/-- letters in lower case behind a text belong to its last word -/
theorem IsLastWord.append (h : IsLastWord head word) (hword : head ++ word ≠ []) (htail : tail.any isUpper = false) :
    IsLastWord head (word ++ tail) := by
  cases word with
  | nil =>
    rw [List.append_nil] at hword
    cases h.start hword
  | cons c rest =>
    refine ⟨h.start, ?_⟩
    rw [List.cons_append, List.tail_cons, List.any_append, htail, Bool.or_false]
    exact h.rest

end LastWord

/-! ## Plurals of plurals -/

/-- the text ends in `i` or `u` -/
def EndsInVowel (text : List Char) : Prop := ∃ front, ∃ c ∈ vowelsIU, text = front ++ [c]

section Again

variable {text p : List Char}

theorem plural_es (front : List Char) : plural (front ++ ['e', 's']) = some (front ++ ['e', 's']) := by
  have hlast : IsLastWord (splitLastWord front).1 ((splitLastWord front).2 ++ ['e', 's']) := by
    by_cases hfront : front = []
    · subst hfront
      exact ⟨fun h => absurd rfl h, by decide⟩
    · refine (splitLastWord_isLastWord front).append ?_ (by decide)
      rwa [splitLastWord_append]
  obtain ⟨x, hx⟩ := lowerAfter_append [] (splitLastWord front).2 ['e', 's']
  rw [isSmall_es] at hx
  have hplural := hlast.plural
  rw [pluralWord_kept hx (by decide), ← List.append_assoc, splitLastWord_append] at hplural
  simpa [splitLastWord_append, ← List.append_assoc] using hplural

theorem plural_irregular {entry : String × String} (hentry : entry ∈ irregularPlurals) {head word : List Char}
    (h : IsLastWord head word) :
    plural (head ++ matchCase word entry.2.toList) = some (head ++ matchCase word entry.2.toList) := by
  have hplurals : ∀ entry ∈ irregularPlurals, ∀ w ∈ [entry.2.toList, upperFirst entry.2.toList],
      pluralWord w = some w ∧ w.tail.any isUpper = false := by decide +kernel
  have hcapitals : ∀ entry ∈ irregularPlurals, (upperFirst entry.2.toList).head?.any isUpper = true := by decide +kernel
  have hform : matchCase word entry.2.toList ∈ [entry.2.toList, upperFirst entry.2.toList] := by
    unfold matchCase
    split
    · split <;> simp
    · simp
  have hlast : IsLastWord head (matchCase word entry.2.toList) := by
    refine ⟨fun hhead => ?_, (hplurals entry hentry _ hform).2⟩
    have hstart := h.start hhead
    cases word with
    | nil => cases hstart
    | cons c rest =>
      have hc : isUpper c = true := hstart
      rw [matchCase, if_pos hc]
      exact hcapitals entry hentry
  rw [hlast.plural, (hplurals entry hentry _ hform).1, Option.map_some]

theorem exists_last (h : text ≠ []) : ∃ front word c, text = front ++ [c] ∧ (splitLastWord text).2 = word ++ [c] := by
  obtain ⟨word, c, hword⟩ := (List.eq_nil_or_concat' _).resolve_left (splitLastWord_ne_nil h)
  refine ⟨(splitLastWord text).1 ++ word, word, c, ?_, hword⟩
  rw [List.append_assoc, ← hword, splitLastWord_append]

theorem endsInVowel_concat {front : List Char} {c : Char} : EndsInVowel (front ++ [c]) ↔ c ∈ vowelsIU := by
  constructor
  · rintro ⟨front', c', hc', heq⟩
    rw [List.singleton_inj.1 (List.append_inj' heq rfl).2]
    exact hc'
  · exact fun hc => ⟨front, c, hc, rfl⟩

theorem plural_eq (text : List Char) :
    plural text = (pluralWord (splitLastWord text).2).map ((splitLastWord text).1 ++ ·) := rfl

theorem plural_append_s (h : text ≠ []) :
    plural (text ++ ['s']) = (pluralWord ((splitLastWord text).2 ++ ['s'])).map ((splitLastWord text).1 ++ ·) := by
  have hsmall : ['s'].any isUpper = false := by decide
  have hlast := ((splitLastWord_isLastWord text).append (by rwa [splitLastWord_append]) hsmall).plural
  rwa [← List.append_assoc, splitLastWord_append] at hlast

/-- **Names that end in `i` or `u`**: the plural is the name with an `s`, and the plural of the plural ends in `es`. -/
theorem plural_vowel (h : plural text = some p) (hvowel : EndsInVowel text) :
    p = text ++ ['s'] ∧ ∀ p', plural p = some p' → ∃ y, p' = y ++ ['e', 's'] := by
  have hne : text ≠ [] := by
    rintro rfl
    obtain ⟨front, c, -, heq⟩ := hvowel
    exact absurd heq.symm (List.append_ne_nil_of_right_ne_nil front (List.cons_ne_nil c []))
  obtain ⟨front, word, c, htext, hword⟩ := exists_last hne
  have hc : c ∈ vowelsIU := endsInVowel_concat.1 (htext ▸ hvowel)
  obtain ⟨x, d, hd, hlower⟩ := lowerText_ending word c isSmall_nil
  obtain ⟨x', d', hd', hlower'⟩ := lowerText_ending word c isSmall_s
  have hp : p = text ++ ['s'] := by
    rw [plural_eq, hword, pluralWord_vowel hlower (hd.vowel_iff.2 hc), Option.map_some, ← hword, ← List.append_assoc,
      splitLastWord_append] at h
    exact (Option.some.inj h).symm
  refine ⟨hp, fun p' hp' => ?_⟩
  rw [hp, plural_append_s hne, hword, List.append_assoc] at hp'
  obtain ⟨w, hw, rfl⟩ := Option.map_eq_some_iff.1 hp'
  obtain ⟨y, rfl⟩ := pluralWord_vowel_s hlower' (hd'.vowel_iff.2 hc) hw
  exact ⟨(splitLastWord text).1 ++ y, by rw [List.append_assoc]⟩

/-- **Other names**: the plural is a plural. -/
theorem plural_kept (h : plural text = some p) (hvowel : ¬EndsInVowel text) : plural p = some p := by
  by_cases hne : text = []
  · subst hne
    cases h
    rfl
  rw [plural_eq] at h
  obtain ⟨w, hw, rfl⟩ := Option.map_eq_some_iff.1 h
  cases pluralWord_shape hw with
  | kept => rw [splitLastWord_append, plural_eq, hw, Option.map_some, splitLastWord_append]
  | irregular hentry => exact plural_irregular hentry (splitLastWord_isLastWord text)
  | @replaced stem rest tail hword htail =>
    obtain ⟨front, hfront⟩ : ∃ front, (splitLastWord text).1 ++ (stem ++ tail) = front ++ ['e', 's'] := by
      simp only [List.mem_cons, List.not_mem_nil, or_false] at htail
      rcases htail with rfl | rfl
      · exact ⟨(splitLastWord text).1 ++ stem, by simp⟩
      · exact ⟨(splitLastWord text).1 ++ stem ++ ['i'], by simp⟩
    rw [hfront]
    exact plural_es front
  | added hs =>
    obtain ⟨front, word, c, htext, hword⟩ := exists_last hne
    obtain ⟨x, d, hd, hlower⟩ := lowerText_ending word c isSmall_nil
    obtain ⟨x', d', hd', hlower'⟩ := lowerText_ending word c isSmall_s
    have hdnot : d' ∉ ['s', 'i', 'u'] := by
      intro hmem
      rcases List.mem_cons.1 hmem with rfl | hmem
      · rw [(hd.s_iff hd').2 rfl, ← hword] at hlower
        exact hs x hlower
      · exact hvowel (htext ▸ endsInVowel_concat.2 (hd'.vowel_iff.1 hmem))
    have hlast : lowerText ((splitLastWord text).2 ++ ['s']) = x' ++ [d', 's'] := by
      rw [hword, List.append_assoc]
      exact hlower'
    rw [← List.append_assoc, splitLastWord_append, plural_append_s hne, pluralWord_kept hlast hdnot, Option.map_some,
      ← List.append_assoc, splitLastWord_append]

/-- **Plurals of plurals.** -/
theorem plural_idem_iff (h : plural text = some p) : plural p = some p ↔ ¬EndsInVowel text := by
  refine ⟨fun hp hvowel => ?_, plural_kept h⟩
  obtain ⟨rfl, hagain⟩ := plural_vowel h hvowel
  obtain ⟨y, hy⟩ := hagain _ hp
  obtain ⟨front, c, hc, rfl⟩ := hvowel
  rw [List.append_assoc] at hy
  obtain ⟨-, htail⟩ := List.append_inj' hy rfl
  cases htail
  exact absurd hc (by decide)

/-! ## Plurals with their first letter in upper case -/

/-- the plurals that the rules have in lower case -/
def smallPlurals : List (List Char) := "es".toList :: "ies".toList :: irregularPlurals.map fun entry => entry.2.toList

theorem smallPlurals_upperFirst {w : List Char} (h : w ∈ smallPlurals) :
    plural (upperFirst w) = some (upperFirst w) ∧ lowerText (upperFirst w) = lowerText w := by
  have hall : ∀ w ∈ smallPlurals, plural (upperFirst w) = some (upperFirst w) ∧
      lowerText (upperFirst w) = lowerText w := by
    decide +kernel
  exact hall w h

/-- the first part of a text that starts in upper case starts so too -/
theorem upperFirst_of_append {front tail : List Char} (h : upperFirst (front ++ tail) = front ++ tail)
    (hne : front ≠ []) : upperFirst front = front := by
  obtain ⟨c, rest, rfl⟩ := List.exists_cons_of_ne_nil hne
  rw [List.cons_append, upperFirst, ← List.append_assoc] at h
  exact List.append_cancel_right h

/-- the plural of a text that starts in upper case starts so, too, but for some that are listed -/
theorem upperFirst_plural (htext : upperFirst text = text) (h : plural text = some p) :
    upperFirst p = p ∨ p ∈ smallPlurals := by
  rw [plural_eq] at h
  obtain ⟨w, hw, rfl⟩ := Option.map_eq_some_iff.1 h
  have hsplit := splitLastWord_append text
  generalize splitLastWord text = split at hw hsplit
  obtain ⟨head, word⟩ := split
  subst hsplit
  by_cases hhead : head = []
  · subst hhead
    rw [List.nil_append] at htext ⊢
    cases pluralWord_shape hw with
    | kept => exact Or.inl htext
    | @irregular entry hentry =>
      unfold matchCase
      split
      · split
        · exact Or.inl (upperFirst_idem _)
        · exact Or.inr (List.mem_cons_of_mem _ (List.mem_cons_of_mem _ (List.mem_map_of_mem hentry)))
      · exact Or.inr (List.mem_cons_of_mem _ (List.mem_cons_of_mem _ (List.mem_map_of_mem hentry)))
    | @replaced stem rest tail hword htail =>
      by_cases hstem : stem = []
      · subst hstem
        refine Or.inr ?_
        simp only [List.mem_cons, List.not_mem_nil, or_false] at htail
        rcases htail with rfl | rfl
        · exact List.mem_cons_self
        · exact List.mem_cons_of_mem _ List.mem_cons_self
      · exact Or.inl (upperFirst_append (upperFirst_of_append (hword ▸ htext) hstem) hstem tail)
    | added =>
      by_cases hword : word = []
      · subst hword
        cases hw
      · exact Or.inl (upperFirst_append htext hword _)
  · exact Or.inl (upperFirst_append (upperFirst_of_append htext hhead) hhead w)

end Again

end EntityScaffold.Text

namespace EntityScaffold

open Text

/-! ## Entities that are declared in the plural -/

/-- two spellings of an entity share the resource and the routes -/
structure SharesRoutes (n m : Names) : Prop where
  resource : m.resource = n.resource
  collection : (Artifact.collectionRoute m).path = (Artifact.collectionRoute n).path
  item : ∀ identifier, (Artifact.itemRoute m identifier).path = (Artifact.itemRoute n identifier).path

theorem sharesRoutes_iff {n m : Names} : SharesRoutes n m ↔ m.resource = n.resource := by
  refine ⟨SharesRoutes.resource, fun h => ⟨h, ?_, fun identifier => ?_⟩⟩
  · rw [Artifact.collectionRoute, Artifact.collectionRoute, h]
  · rw [Artifact.itemRoute, Artifact.itemRoute, h]

theorem ofList_injective {a b : List Char} (h : String.ofList a = String.ofList b) : a = b := by
  rw [← String.toList_ofList (l := a), h, String.toList_ofList]

theorem pluralName?_eq_some {name p : String} : pluralName? name = some p ↔ plural name.toList = some p.toList := by
  unfold pluralName?
  constructor
  · intro h
    obtain ⟨t, ht, rfl⟩ := Option.map_eq_some_iff.1 h
    rw [ht, String.toList_ofList]
  · intro h
    rw [h, Option.map_some, String.ofList_toList]

theorem Names.of?_plural {declared : String} {n : Names} (h : Names.of? declared = some n) :
    (∃ m, Names.of? n.plural = some m ∧ SharesRoutes n m) ↔ ¬EndsInVowel n.name.toList := by
  unfold Names.of? at h
  obtain ⟨p, hp, rfl⟩ := Option.map_eq_some_iff.1 h
  have hupper : Text.upperFirst (Text.upperFirst declared.toList) = Text.upperFirst declared.toList := upperFirst_idem _
  generalize Text.upperFirst declared.toList = text at hp hupper
  simp only [Names.of?, String.toList_ofList, sharesRoutes_iff, Option.map_eq_some_iff]
  constructor
  · rintro ⟨m, ⟨p', hp', rfl⟩, hresource⟩ hvowel
    obtain ⟨rfl, hagain⟩ := plural_vowel hp hvowel
    obtain ⟨front, c, hc, rfl⟩ := hvowel
    rw [upperFirst_append hupper (by simp)] at hp'
    obtain ⟨y, rfl⟩ := hagain p' hp'
    have hlower := ofList_injective hresource
    obtain ⟨x, hx⟩ := lowerAfter_append [] y ['e', 's']
    obtain ⟨x', d, hd, hlower'⟩ := lowerText_ending front c isSmall_s
    rw [lowerText, hx, isSmall_es, List.append_assoc, List.singleton_append, hlower'] at hlower
    obtain ⟨-, htail⟩ := List.append_inj' hlower rfl
    cases htail
    exact absurd (hd.vowel_iff.2 hc) (by decide)
  · intro hvowel
    have hkept := plural_kept hp hvowel
    rcases upperFirst_plural hupper hp with hsame | hsmall
    · exact ⟨_, ⟨p, by rw [hsame, hkept], rfl⟩, rfl⟩
    · obtain ⟨hplural, hlower⟩ := smallPlurals_upperFirst hsmall
      exact ⟨_, ⟨_, hplural, rfl⟩, congrArg String.ofList hlower⟩

/-- **Plurals of plurals.** A plural is its own plural exactly when the name does not end in `i` or `u`, and exactly
then an entity that is declared with the plural of a name has its resource and its routes. -/
theorem plural_again_iff (name : String) :
    (∀ p, pluralName? name = some p → (pluralName? p = some p ↔ ¬EndsInVowel name.toList)) ∧
      ∀ n, Names.of? name = some n →
        ((∃ m, Names.of? n.plural = some m ∧ SharesRoutes n m) ↔ ¬EndsInVowel n.name.toList) := by
  refine ⟨fun p h => ?_, fun n h => Names.of?_plural h⟩
  rw [pluralName?_eq_some] at h ⊢
  exact plural_idem_iff h

/-- the plural of `Status` is a plural, and an entity `Statuses` has the routes of `Status` -/
theorem plural_again_statuses : pluralName? "Statuses" = some "Statuses" ∧
    ∃ n m, Names.of? "status" = some n ∧ Names.of? "Statuses" = some m ∧ SharesRoutes n m := by
  have hname : ¬EndsInVowel "Status".toList := by
    rw [show "Status".toList = "Statu".toList ++ ['s'] from rfl, endsInVowel_concat]
    decide
  refine ⟨((plural_again_iff "Status").1 "Statuses" (by decide)).2 hname, ?_⟩
  obtain ⟨m, hm, hshares⟩ := ((plural_again_iff "status").2
    ⟨"Status", "status", "Statuses", "statuses", "statuses", "status"⟩ (by decide)).2 hname
  exact ⟨_, m, by decide, hm, hshares⟩

/-- the plural of `Menu` is put in the plural again, and an entity `Menus` has a resource of its own -/
theorem plural_again_menus : pluralName? "Menu" = some "Menus" ∧ pluralName? "Menus" = some "Menuses" ∧
    (Names.of? "Menu").map Names.resource = some "menus" ∧ (Names.of? "Menus").map Names.resource = some "menuses" := by
  decide

end EntityScaffold

import EntityScaffold.Proofs.ClauseText

/-!
The search for a key in the arguments of a clause. It stops only where the key starts a word and a colon follows, so
it goes through a quoted name and through the arguments of other keys (`Passes`) and is not misled by names that look
like keys. Among arguments it finds the one with the key (`afterKeyFrom_arguments_found`).
-/

namespace EntityScaffold.Line

open Text

/-! ## Words -/

def codePoints (ranges : List (Nat × Nat)) : List Nat := ranges.flatMap fun r => List.range' r.1 (r.2 + 1 - r.1)

theorem mem_codePoints {ranges : List (Nat × Nat)} {n : Nat} (h : inRanges ranges n = true) :
    n ∈ codePoints ranges := by
  simp only [inRanges, List.any_eq_true, Bool.and_eq_true, decide_eq_true_eq] at h
  obtain ⟨r, hr, h1, h2⟩ := h
  refine List.mem_flatMap.2 ⟨r, hr, ?_⟩
  rw [List.mem_range'_1]
  omega

theorem blank_of_wordChar {c : Char} (h : isWordChar c = true) : isBlank c = false := by
  have hblanks : ∀ n ∈ codePoints [(0x9, 0xd), (0x20, 0x20), (0x85, 0x85), (0xa0, 0xa0), (0x1680, 0x1680),
      (0x2000, 0x200a), (0x2028, 0x2029), (0x202f, 0x202f), (0x205f, 0x205f), (0x3000, 0x3000)],
      isWordChar (Char.ofNat n) = false := by decide +kernel
  by_contra hb
  have hword := hblanks _ (mem_codePoints (Bool.not_eq_false _ ▸ hb))
  rw [Char.ofNat_toNat, h] at hword
  cases hword

theorem ne_of_wordChar {c d : Char} (h : isWordChar c = true) (hd : isWordChar d = false) : c ≠ d := by
  rintro rfl
  rw [h] at hd
  cases hd

/-- a word: characters of words, at least one -/
structure IsWord (text : List Char) : Prop where
  nonempty : text ≠ []
  chars : ∀ c ∈ text, isWordChar c = true

theorem isWord_of_isIdentifier {text : List Char} (h : isIdentifier text = true) : IsWord text := by
  match text, h with
  | c :: rest, h =>
    simp only [isIdentifier, Bool.and_eq_true, List.all_eq_true] at h
    refine ⟨List.cons_ne_nil c rest, fun d hd => ?_⟩
    rcases List.mem_cons.1 hd with rfl | hd
    · simp only [isWordChar, isAlphanumeric, Bool.or_eq_true, decide_eq_true_eq] at h ⊢
      exact h.1.imp_left Or.inl
    · exact h.2 d hd

theorem isWord_key (key : ListKey) : IsWord key.word.toList := by
  refine isWord_of_isIdentifier ?_
  cases key <;> decide

theorem isWord_name : IsWord "name".toList := isWord_of_isIdentifier (by decide)

theorem isWord_onDelete : IsWord "onDelete".toList := isWord_of_isIdentifier (by decide)

theorem isWord_onUpdate : IsWord "onUpdate".toList := isWord_of_isIdentifier (by decide)

theorem IsWord.not_mem {text : List Char} (h : IsWord text) {d : Char} (hd : isWordChar d = false) : d ∉ text :=
  fun hm => ne_of_wordChar (h.chars d hm) hd rfl

/-! ## The key search -/

section KeySearch

variable {key : List Char} {before : Option Char}

/-- a character is skipped unless the key stands there at the start of a word with a colon after it -/
theorem afterKeyFrom_skip_char {c : Char} {rest : List Char}
    (h : ∀ after, key ++ after = c :: rest → before.any isWordChar = true ∨ (trimStart after).head? ≠ some ':') :
    afterKeyFrom key before (c :: rest) = afterKeyFrom key (some c) rest := by
  rw [afterKeyFrom]
  split
  · rfl
  · next after hafter =>
    rcases h after (List.isPrefixOf?_eq_some_iff_append_eq.1 hafter) with hword | hcolon
    · rw [if_pos hword]
    · split
      · rfl
      · split
        · next value hvalue => exact absurd (congrArg List.head? hvalue) hcolon
        · rfl

theorem afterKeyFrom_none {text : List Char} (h : ':' ∉ text) : afterKeyFrom key before text = none := by
  induction text generalizing before with
  | nil => rfl
  | cons c rest ih =>
    rw [← @ih (some c) fun hm => h (List.mem_cons_of_mem _ hm)]
    refine afterKeyFrom_skip_char fun after hafter => Or.inr fun hhead => h ?_
    have hmem : ':' ∈ after := mem_trimStart (List.mem_of_head? hhead)
    rw [← hafter]
    exact List.mem_append_right _ hmem

theorem afterKeyFrom_word {part rest : List Char} (hpart : ∀ c ∈ part, isWordChar c = true)
    (hbefore : before.any isWordChar = true) :
    afterKeyFrom key before (part ++ ':' :: rest) = afterKeyFrom key (some ':') rest := by
  induction part generalizing before with
  | nil =>
    exact afterKeyFrom_skip_char fun after hafter => Or.inl hbefore
  | cons c part ih =>
    have hc : (some c).any isWordChar = true := hpart c List.mem_cons_self
    rw [List.cons_append, ← ih (fun d hd => hpart d (List.mem_cons_of_mem _ hd)) hc]
    exact afterKeyFrom_skip_char fun after hafter => Or.inl hbefore

/-- another word is skipped with its colon -/
theorem afterKeyFrom_other {word rest : List Char} (hkey : IsWord key) (hword : IsWord word) (hne : word ≠ key) :
    afterKeyFrom key before (word ++ ':' :: rest) = afterKeyFrom key (some ':') rest := by
  have hcolon : ':' ∉ key := hkey.not_mem (by decide)
  obtain ⟨c, part, rfl⟩ := List.exists_cons_of_ne_nil hword.nonempty
  have hpart : ∀ d ∈ part, isWordChar d = true := fun d hd => hword.chars d (List.mem_cons_of_mem _ hd)
  have hc : (some c).any isWordChar = true := hword.chars c List.mem_cons_self
  rw [List.cons_append, ← afterKeyFrom_word hpart hc]
  refine afterKeyFrom_skip_char fun after hafter => Or.inr ?_
  rw [← List.cons_append] at hafter
  -- the key is a proper part of the word, so a character of the word follows it
  rcases List.append_eq_append_iff.1 hafter with ⟨more, hmore, rfl⟩ | ⟨more, rfl, hmore⟩
  · cases more with
    | nil => exact absurd (by simpa using hmore) hne
    | cons d more =>
      have hd : isWordChar d = true := hword.chars d (hmore ▸ List.mem_append_right _ List.mem_cons_self)
      have hcolon : d ≠ ':' := ne_of_wordChar hd (by decide)
      simp [trimStart, blank_of_wordChar hd, hcolon]
  · cases more with
    | nil => exact absurd (by simp) hne
    | cons d more =>
      have hd : ':' = d := (List.cons.inj hmore).1
      exact absurd (List.mem_append_right _ (hd ▸ List.mem_cons_self)) hcolon

/-- the key starts a word at the start of the text, and a colon and the value follow it -/
def KeyAt (key : List Char) (before : Option Char) (text value : List Char) : Prop :=
  before.any isWordChar = false ∧ ∃ gap, text = key ++ (gap ++ ':' :: value) ∧ ∀ c ∈ gap, isBlank c = true

/-- a place where the key does not stand is skipped -/
theorem afterKeyFrom_skip_place {c : Char} {rest : List Char} (h : ∀ value, ¬KeyAt key before (c :: rest) value) :
    afterKeyFrom key before (c :: rest) = afterKeyFrom key (some c) rest := by
  refine afterKeyFrom_skip_char fun after hafter => ?_
  by_contra hstands
  rw [not_or, not_not, Bool.not_eq_true] at hstands
  obtain ⟨gap, hgap, hblanks⟩ := trimStart_append after
  obtain ⟨value, hvalue⟩ := List.head?_eq_some_iff.1 hstands.2
  rw [hvalue] at hgap
  exact h value ⟨hstands.1, gap, by rw [← hafter, hgap], hblanks⟩

theorem afterKeyFrom_place (hkey : key ≠ []) {text value : List Char} (h : KeyAt key before text value) :
    afterKeyFrom key before text = some value := by
  obtain ⟨hbefore, gap, rfl, hgap⟩ := h
  have hprefix : key.isPrefixOf? (key ++ (gap ++ ':' :: value)) = some (gap ++ ':' :: value) :=
    List.isPrefixOf?_eq_some_iff_append_eq.2 rfl
  have hcolon : trimStart (gap ++ ':' :: value) = ':' :: value := by
    rw [trimStart_blanks_append _ hgap, trimStart_eq_self (by simp; decide)]
  obtain ⟨c, part, rfl⟩ := List.exists_cons_of_ne_nil hkey
  rw [List.cons_append] at hprefix ⊢
  rw [afterKeyFrom, hprefix]
  simp [hbefore, hcolon]

/-- **A search goes on** behind a text in which nothing is found, and what is found in the text is found with the rest
behind it. A character that stands in no key and before no colon parts the two. -/
theorem afterKeyFrom_append (hkey : key ≠ []) {d : Char} (hd : d ∉ key) (hblank : isBlank d = false) (hcolon : d ≠ ':')
    (text rest : List Char) : afterKeyFrom key before (text ++ d :: rest) =
      ((afterKeyFrom key before text).map (· ++ d :: rest)).or (afterKeyFrom key (some d) rest) := by
  induction text generalizing before with
  | nil =>
    refine afterKeyFrom_skip_place fun value hat => ?_
    obtain ⟨-, gap, hsplit, -⟩ := hat
    obtain ⟨k, more, rfl⟩ := List.exists_cons_of_ne_nil hkey
    exact hd ((List.cons.inj hsplit).1 ▸ List.mem_cons_self)
  | cons c text ih =>
    by_cases hhere : ∃ value, KeyAt key before (c :: text) value
    · obtain ⟨value, hat⟩ := hhere
      have hlonger : KeyAt key before (c :: (text ++ d :: rest)) (value ++ d :: rest) := by
        obtain ⟨hbefore, gap, hsplit, hgap⟩ := hat
        exact ⟨hbefore, gap, by rw [← List.cons_append, hsplit]; simp, hgap⟩
      rw [List.cons_append, afterKeyFrom_place hkey hlonger, afterKeyFrom_place hkey hat]
      rfl
    · rw [not_exists] at hhere
      -- a key that stands here ends with its colon before `d`
      have hlonger : ∀ value, ¬KeyAt key before (c :: (text ++ d :: rest)) value := by
        rintro value ⟨hbefore, gap, hsplit, hgap⟩
        have hlead : d ∉ key ++ (gap ++ [':']) := by
          simp only [List.mem_append, List.mem_singleton, not_or]
          exact ⟨hd, fun hm => absurd (hgap d hm) (by simp [hblank]), hcolon⟩
        have hparts : (c :: text) ++ d :: rest = (key ++ (gap ++ [':'])) ++ value := by simpa using hsplit
        rcases List.append_eq_append_iff.1 hparts with ⟨more, hmore, htail⟩ | ⟨more, hmore, -⟩
        · cases more with
          | nil => exact hhere [] ⟨hbefore, gap, by simpa using hmore.symm, hgap⟩
          | cons x more =>
            obtain rfl := (List.cons.inj htail).1
            exact hlead (hmore ▸ List.mem_append_right _ List.mem_cons_self)
        · exact hhere more ⟨hbefore, gap, by simpa using hmore, hgap⟩
      rw [List.cons_append, afterKeyFrom_skip_place hlonger, afterKeyFrom_skip_place hhere, ih]

/-- a part without colon is skipped -/
theorem afterKeyFrom_skip (hkey : key ≠ []) {part : List Char} (hpart : ':' ∉ part) {d : Char} (hd : d ∉ key)
    (hblank : isBlank d = false) (hcolon : d ≠ ':') (rest : List Char) :
    afterKeyFrom key before (part ++ d :: rest) = afterKeyFrom key (some d) rest := by
  rw [afterKeyFrom_append hkey hd hblank hcolon, afterKeyFrom_none hpart]
  rfl

/-- the first place in a text where the key stands, with `before` the character before the text -/
def FirstKey (key : List Char) (before : Option Char) (lead text value : List Char) : Prop :=
  KeyAt key (lead.getLast?.or before) text value ∧ ∀ lead' text' value', lead ++ text = lead' ++ text' →
    KeyAt key (lead'.getLast?.or before) text' value' → lead.length ≤ lead'.length

theorem getLast?_cons_or (c : Char) (lead : List Char) (before : Option Char) :
    (c :: lead).getLast?.or before = lead.getLast?.or (some c) := by
  rw [List.getLast?_cons]
  cases lead.getLast? <;> rfl

/-- **The search finds the first place of its key**, with the value after the colon. -/
theorem afterKeyFrom_eq_some (hkey : key ≠ []) {text value : List Char} :
    afterKeyFrom key before text = some value ↔
      ∃ lead rest, text = lead ++ rest ∧ FirstKey key before lead rest value := by
  induction text generalizing before with
  | nil =>
    refine ⟨nofun, ?_⟩
    rintro ⟨lead, rest, hsplit, ⟨-, gap, hrest, -⟩, -⟩
    rw [hrest] at hsplit
    simp at hsplit
  | cons c text ih =>
    by_cases hhere : ∃ value', KeyAt key before (c :: text) value'
    · obtain ⟨value', hat⟩ := hhere
      rw [afterKeyFrom_place hkey hat, Option.some.injEq]
      constructor
      · rintro rfl
        exact ⟨[], c :: text, rfl, hat, fun _ _ _ _ _ => Nat.zero_le _⟩
      · rintro ⟨lead, rest, hsplit, hat', hfirst⟩
        -- no place comes before the start
        have hnil : lead = [] :=
          List.length_eq_zero_iff.1 (Nat.le_zero.1 (hfirst [] (c :: text) value' hsplit.symm hat))
        subst hnil
        rw [List.nil_append] at hsplit
        subst hsplit
        have hfound := (afterKeyFrom_place hkey hat).symm.trans (afterKeyFrom_place hkey hat')
        exact Option.some.inj hfound
    · rw [not_exists] at hhere
      rw [afterKeyFrom_skip_place hhere, ih]
      constructor
      · rintro ⟨lead, rest, rfl, hat, hfirst⟩
        refine ⟨c :: lead, rest, rfl, by rwa [getLast?_cons_or], fun lead' rest' value' hsplit hat' => ?_⟩
        cases lead' with
        | nil =>
          rw [List.nil_append, List.cons_append] at hsplit
          exact absurd (hsplit ▸ hat') (hhere value')
        | cons d lead' =>
          obtain ⟨rfl, htail⟩ := List.cons.inj hsplit
          rw [getLast?_cons_or] at hat'
          exact Nat.succ_le_succ (hfirst lead' rest' value' htail hat')
      · rintro ⟨lead, rest, hsplit, hat, hfirst⟩
        cases lead with
        | nil => exact absurd (hsplit ▸ hat) (hhere value)
        | cons d lead =>
          obtain ⟨rfl, rfl⟩ := List.cons.inj hsplit
          rw [getLast?_cons_or] at hat
          refine ⟨lead, rest, rfl, hat, fun lead' rest' value' hsplit' hat' => ?_⟩
          have hlater := hfirst (c :: lead') rest' value' (congrArg (c :: ·) hsplit') (by rwa [getLast?_cons_or])
          exact Nat.le_of_succ_le_succ hlater

theorem afterKeyFrom_found (hkey : key ≠ []) (hbefore : before.any isWordChar = false) (value : List Char) :
    afterKeyFrom key before (key ++ ':' :: value) = some value :=
  afterKeyFrom_place hkey ⟨hbefore, [], rfl, List.forall_mem_nil _⟩

/-- the value of a key among arguments: what follows the first place where the key starts a word with a colon after
it -/
def Keyed (key args value : List Char) : Prop :=
  ∃ lead text, args = lead ++ text ∧ FirstKey key none lead text value

theorem afterKey?_eq_some {key : String} (hkey : key.toList ≠ []) {args value : List Char} :
    afterKey? key args = some value ↔ Keyed key.toList args value := afterKeyFrom_eq_some hkey

end KeySearch

/-- the search for a key goes through a whole argument without finding it -/
structure Passes (key text : List Char) : Prop where
  last : ∀ before : Option Char, afterKeyFrom key before text = none
  next : ∀ (before : Option Char) rest, afterKeyFrom key before (text ++ ',' :: rest) = afterKeyFrom key (some ',') rest

section Passes

variable {key : List Char}

theorem passes_quoted {text : List Char} (hkey : IsWord key) (h : ':' ∉ text) :
    Passes key ('"' :: (text ++ ['"'])) where
  last before := afterKeyFrom_none (by simpa using h)
  next before rest := by
    have hpart : ':' ∉ '"' :: (text ++ ['"']) := by simpa using h
    exact afterKeyFrom_skip hkey.nonempty hpart (hkey.not_mem (by decide)) (by decide) (by decide) rest

theorem passes_other {word value : List Char} (hkey : IsWord key) (hword : IsWord word) (hne : word ≠ key)
    (h : ':' ∉ value) : Passes key (word ++ ':' :: value) where
  last before := by
    rw [afterKeyFrom_other hkey hword hne]
    exact afterKeyFrom_none h
  next before rest := by
    rw [List.append_assoc, List.cons_append, afterKeyFrom_other hkey hword hne]
    exact afterKeyFrom_skip hkey.nonempty h (hkey.not_mem (by decide)) (by decide) (by decide) rest

theorem afterKeyFrom_space (hkey : IsWord key) (before : Option Char) (rest : List Char) :
    afterKeyFrom key before (' ' :: rest) = afterKeyFrom key (some ' ') rest := by
  refine afterKeyFrom_skip_char fun after hafter => ?_
  obtain ⟨k, more, rfl⟩ := List.exists_cons_of_ne_nil hkey.nonempty
  have hspace := hkey.not_mem (d := ' ') (by decide)
  exact absurd ((List.cons.inj hafter).1 ▸ List.mem_cons_self) hspace

/-- what follows an argument: nothing, or a comma and more -/
def IsRest (tail : List Char) : Prop := tail = [] ∨ ∃ rest, tail = ',' :: rest

theorem intercalate_cons (part : List Char) (parts : List (List Char)) :
    ∃ tail, IsRest tail ∧ List.intercalate ", ".toList (part :: parts) = part ++ tail := by
  cases parts with
  | nil => exact ⟨[], Or.inl rfl, by simp [List.intercalate]⟩
  | cons next parts =>
    refine ⟨", ".toList ++ List.intercalate ", ".toList (next :: parts), Or.inr ⟨_, rfl⟩, ?_⟩
    rw [List.intercalate_cons_cons, List.append_assoc]

theorem afterKeyFrom_arguments_none (hkey : IsWord key) {arguments : List (List Char)}
    (h : ∀ a ∈ arguments, Passes key a) (before : Option Char) :
    afterKeyFrom key before (List.intercalate ", ".toList arguments) = none := by
  induction arguments generalizing before with
  | nil => rfl
  | cons a arguments ih =>
    have ha := h a List.mem_cons_self
    cases arguments with
    | nil => simpa [List.intercalate] using ha.last before
    | cons b arguments =>
      have hrest := ih (fun x hx => h x (List.mem_cons_of_mem _ hx)) (some ' ')
      have hsep : ", ".toList = [',', ' '] := by decide
      rw [List.intercalate_cons_cons, hsep, List.append_assoc]
      simp only [List.cons_append, List.nil_append]
      rw [ha.next, afterKeyFrom_space hkey, ← hsep]
      exact hrest

/-- **A key is found** at the argument that has it, when no argument before it does. -/
theorem afterKeyFrom_arguments_found (hkey : IsWord key) {lead : List (List Char)} (h : ∀ a ∈ lead, Passes key a)
    (before : Option Char) (hbefore : before.any isWordChar = false) (value : List Char)
    (others : List (List Char)) : ∃ tail, IsRest tail ∧
      afterKeyFrom key before (List.intercalate ", ".toList (lead ++ (key ++ ':' :: value) :: others)) =
        some (value ++ tail) := by
  induction lead generalizing before with
  | nil =>
    obtain ⟨tail, htail, hjoin⟩ := intercalate_cons (key ++ ':' :: value) others
    refine ⟨tail, htail, ?_⟩
    rw [List.nil_append, hjoin, List.append_assoc, List.cons_append, afterKeyFrom_found hkey.nonempty hbefore]
  | cons a lead ih =>
    have ha := h a List.mem_cons_self
    obtain ⟨tail, htail, hfound⟩ := ih (fun x hx => h x (List.mem_cons_of_mem _ hx)) (some ' ') (by decide)
    refine ⟨tail, htail, ?_⟩
    obtain ⟨b, rest, hrest⟩ := List.exists_cons_of_ne_nil
      (List.append_ne_nil_of_right_ne_nil lead (List.cons_ne_nil (key ++ ':' :: value) others))
    have hsep : ", ".toList = [',', ' '] := by decide
    rw [hrest] at hfound
    rw [List.cons_append, hrest, List.intercalate_cons_cons, hsep, List.append_assoc]
    simp only [List.cons_append, List.nil_append]
    rw [ha.next, afterKeyFrom_space hkey, ← hsep]
    exact hfound

end Passes

end EntityScaffold.Line

import EntityScaffold.Proofs.KeySearch
import EntityScaffold.Proofs.Rewriting

/-!
Texts that the scanners of a field line pass over. The comment split, the extent of a clause and the balance of its
brackets are where they were after a text that closes what it opens (`Even`); the tokenizer gives back the text when
its tokens have one space between them (`Tidy`). Both hold of a text as soon as they hold of its parts.
-/

namespace EntityScaffold.Line

open Text

/-! ## Texts that close what they open -/

/-- a character that opens and closes nothing but lists -/
def IsInert (c : Char) : Prop := c ≠ '"' ∧ c ≠ '/' ∧ c ≠ '(' ∧ c ≠ ')'

instance (c : Char) : Decidable (IsInert c) := inferInstanceAs (Decidable (_ ∧ _))

/-- after the text no literal is open and no comment starts in it; parentheses stand in literals only -/
structure Flat (text : List Char) : Prop where
  clean : Clean text
  head : text.head? ≠ some '/'
  closed : ∀ e : Extent, e.quoted = false → text.foldl Extent.next e = e
  level : ∀ e : Extent, e.quoted = false → ∀ part rest, part ++ rest = text → (part.foldl Extent.next e).depth = e.depth

theorem flat_nil : Flat [] where
  clean := clean_nil
  head := nofun
  closed _ _ := rfl
  level _ _ part rest h := by rw [(List.append_eq_nil_iff.1 h).1]; rfl

theorem Flat.append {a b : List Char} (ha : Flat a) (hb : Flat b) : Flat (a ++ b) where
  clean := ha.clean.append hb.clean fun _ => hb.head
  head := by
    cases a with
    | nil => exact hb.head
    | cons c a => exact ha.head
  closed e he := by rw [List.foldl_append, ha.closed e he, hb.closed e he]
  level e he part rest h := by
    rcases List.append_eq_append_iff.1 h with ⟨more, hmore, -⟩ | ⟨more, rfl, hmore⟩
    · exact ha.level e he part more hmore.symm
    · rw [List.foldl_append, ha.closed e he]
      exact hb.level e he more rest hmore.symm

theorem next_of_inert {c : Char} (h : IsInert c) {e : Extent} (he : e.quoted = false) : e.next c = e := by
  obtain ⟨h1, -, h2, h3⟩ := h
  simp [Extent.next, h1, h2, h3, he]

theorem flat_char {c : Char} (h : IsInert c) : Flat [c] where
  clean := {
    noComment := noComment_cons.2 ⟨fun hc => h.2.1 (List.cons_prefix_cons.1 hc.2).1.symm, rfl⟩
    place := placeAfter_of_no_quote fun hm => h.1 (List.mem_singleton.1 hm).symm }
  head hc := h.2.1 (Option.some.inj hc)
  closed e he := next_of_inert h he
  level e he part rest hpart := by
    rcases List.append_eq_singleton_iff.1 hpart with ⟨rfl, -⟩ | ⟨rfl, -⟩
    · rfl
    · exact congrArg Extent.depth (next_of_inert h he)

theorem flat_inert {text : List Char} (h : ∀ c ∈ text, IsInert c) : Flat text := by
  induction text with
  | nil => exact flat_nil
  | cons c text ih =>
    exact (flat_char (h c List.mem_cons_self)).append (ih fun d hd => h d (List.mem_cons_of_mem _ hd))

/-- every bracket is closed where it was opened -/
def Balanced (text : List Char) : Prop :=
  ∀ stack rest, balancedFrom false stack (text ++ rest) = balancedFrom false stack rest

theorem Balanced.append {a b : List Char} (ha : Balanced a) (hb : Balanced b) : Balanced (a ++ b) := by
  intro stack rest
  rw [List.append_assoc, ha, hb]

theorem balanced_inert {text : List Char} (h : ∀ c ∈ text, IsInert c ∧ c ≠ '[' ∧ c ≠ ']') : Balanced text := by
  intro stack rest
  induction text with
  | nil => rfl
  | cons c text ih =>
    obtain ⟨⟨h1, -, h2, h3⟩, h4, h5⟩ := h c List.mem_cons_self
    have hanswer : answered? c = none := by
      unfold answered?
      split
      · exact absurd rfl h3
      · exact absurd rfl h5
      · rfl
    rw [← ih fun d hd => h d (List.mem_cons_of_mem _ hd)]
    simp [balancedFrom, h1, h2, h4, hanswer]

theorem Balanced.brackets {text : List Char} (h : Balanced text) : Balanced ('[' :: (text ++ [']'])) := by
  intro stack rest
  have hinner := h ('[' :: stack) (']' :: rest)
  simp [balancedFrom, answered?, hinner]

theorem balancedFrom_quoted {text : List Char} (h : '"' ∉ text) (stack rest : List Char) :
    balancedFrom true stack (text ++ '"' :: rest) = balancedFrom false stack rest := by
  induction text with
  | nil => simp [balancedFrom]
  | cons c text ih =>
    simp only [List.mem_cons, not_or] at h
    rw [List.cons_append, balancedFrom, decide_eq_true (Ne.symm h.1)]
    exact ih h.2

/-- a text in quotes, whatever brackets it holds -/
theorem balanced_quoted {text : List Char} (h : '"' ∉ text) : Balanced ('"' :: (text ++ ['"'])) := by
  intro stack rest
  have hinner := balancedFrom_quoted h stack rest
  simpa [balancedFrom] using hinner

/-- what holds of texts and of a comma holds of the texts with commas between them -/
theorem intercalate_induction {P : List Char → Prop} (hnil : P []) (hcomma : P ", ".toList)
    (happend : ∀ {a b}, P a → P b → P (a ++ b)) {parts : List (List Char)} (h : ∀ part ∈ parts, P part) :
    P (List.intercalate ", ".toList parts) := by
  induction parts with
  | nil => exact hnil
  | cons part parts ih =>
    have hpart := h part List.mem_cons_self
    have hrest := ih fun x hx => h x (List.mem_cons_of_mem _ hx)
    cases parts with
    | nil => simpa [List.intercalate] using hpart
    | cons next parts =>
      rw [List.intercalate_cons_cons]
      exact happend (happend hpart hcomma) hrest

theorem balanced_intercalate {parts : List (List Char)} (h : ∀ part ∈ parts, Balanced part) :
    Balanced (List.intercalate ", ".toList parts) :=
  intercalate_induction (balanced_inert (by simp)) (balanced_inert (by simp [IsInert])) Balanced.append h

/-- a text that changes nothing for the comment split, the extent of the clause and the balance of brackets -/
structure Even (text : List Char) : Prop extends Flat text where
  balanced : Balanced text

theorem Even.append {a b : List Char} (ha : Even a) (hb : Even b) : Even (a ++ b) :=
  ⟨ha.toFlat.append hb.toFlat, ha.balanced.append hb.balanced⟩

theorem even_inert {text : List Char} (h : ∀ c ∈ text, IsInert c ∧ c ≠ '[' ∧ c ≠ ']') : Even text :=
  ⟨flat_inert fun c hc => (h c hc).1, balanced_inert h⟩

theorem IsWord.even {text : List Char} (h : IsWord text) : Even text := by
  refine even_inert fun c hc => ?_
  have hne : ∀ d, isWordChar d = false → c ≠ d := fun d => ne_of_wordChar (h.chars c hc)
  exact ⟨⟨hne _ (by decide), hne _ (by decide), hne _ (by decide), hne _ (by decide)⟩, hne _ (by decide),
    hne _ (by decide)⟩

/-- texts with commas between them -/
theorem even_intercalate {parts : List (List Char)} (h : ∀ part ∈ parts, Even part) :
    Even (List.intercalate ", ".toList parts) :=
  intercalate_induction (even_inert (by simp)) (even_inert (by simp [IsInert])) Even.append h

theorem Even.brackets {text : List Char} (h : Even text) : Even ('[' :: (text ++ [']'])) where
  toFlat := (flat_char (by decide : IsInert '[')).append (h.toFlat.append (flat_char (by decide : IsInert ']')))
  balanced := h.balanced.brackets

/-! ## Literals -/

/-- the text can stand between quotes: a backslash takes the character after it along, and no other quote stands
in it -/
inductive LiteralText : List Char → Prop
  | nil : LiteralText []
  | plain {c : Char} {rest : List Char} (hquote : c ≠ '"') (hescape : c ≠ '\\') (hrest : LiteralText rest) :
      LiteralText (c :: rest)
  | escaped (c : Char) {rest : List Char} (hrest : LiteralText rest) : LiteralText ('\\' :: c :: rest)

section Quoted

variable {text : List Char}

theorem literalText_plain (h1 : '"' ∉ text) (h2 : '\\' ∉ text) : LiteralText text := by
  induction text with
  | nil => exact .nil
  | cons c text ih =>
    simp only [List.mem_cons, not_or] at h1 h2
    exact .plain (Ne.symm h1.1) (Ne.symm h2.1) (ih h1.2 h2.2)

theorem LiteralText.append {a b : List Char} (ha : LiteralText a) (hb : LiteralText b) : LiteralText (a ++ b) := by
  induction ha with
  | nil => exact hb
  | plain hquote hescape _ ih => exact .plain hquote hescape ih
  | escaped c _ ih => exact .escaped c ih

theorem next_literal {c : Char} (h1 : c ≠ '"') (h2 : c ≠ '\\') : Place.literal.next c = .literal := by
  simp [Place.next, h1, h2]

theorem LiteralText.runs (h : LiteralText text) : NoComment .literal (text ++ ['"']) ∧
    placeAfter .literal (text ++ ['"']) = .code ∧ tokensFrom .literal (text ++ ['"']) = some (text ++ ['"'], []) := by
  induction h with
  | nil => exact ⟨rfl, rfl, by decide⟩
  | @plain c rest hquote hescape _ ih =>
    obtain ⟨hcomment, hplace, htokens⟩ := ih
    have hnext := next_literal hquote hescape
    have hinside : Place.literal = .code → isBlank c = false := nofun
    refine ⟨noComment_cons.2 ⟨nofun, by rwa [hnext]⟩, by rwa [List.cons_append, placeAfter_cons, hnext], ?_⟩
    rw [List.cons_append, tokensFrom_char hinside, hnext, htokens]
    rfl
  | @escaped c rest _ ih =>
    obtain ⟨hcomment, hplace, htokens⟩ := ih
    refine ⟨noComment_cons.2 ⟨nofun, noComment_cons.2 ⟨nofun, hcomment⟩⟩, hplace, ?_⟩
    have hescape : Place.literal.next '\\' = .escape := rfl
    have hnext : Place.escape.next c = .literal := rfl
    have hinside : Place.literal = .code → isBlank '\\' = false := nofun
    have hinside' : Place.escape = .code → isBlank c = false := nofun
    rw [List.cons_append, List.cons_append, tokensFrom_char hinside, hescape, tokensFrom_char hinside', hnext, htokens]
    rfl

theorem LiteralText.clean (h : LiteralText text) : Clean ('"' :: (text ++ ['"'])) := by
  refine ⟨noComment_cons.2 ⟨fun hc => ?_, h.runs.1⟩, h.runs.2.1⟩
  exact absurd (List.cons_prefix_cons.1 hc.2).1 (by decide)

theorem LiteralText.token (h : LiteralText text) : IsToken ('"' :: (text ++ ['"'])) := by
  have hopen : Place.code.next '"' = .literal := rfl
  refine ⟨List.cons_ne_nil _ _, ?_⟩
  rw [tokensFrom_char fun _ => by decide, hopen, h.runs.2.2]
  rfl

theorem next_quoted {c : Char} (h : c ≠ '"') {e : Extent} (he : e.quoted = true) : e.next c = e := by
  simp [Extent.next, h, he]

theorem foldl_next_quoted (h : '"' ∉ text) {e : Extent} (he : e.quoted = true) : text.foldl Extent.next e = e := by
  induction text with
  | nil => rfl
  | cons c text ih =>
    simp only [List.mem_cons, not_or] at h
    rw [List.foldl_cons, next_quoted (Ne.symm h.1) he]
    exact ih h.2

/-- a name in quotes, whatever parentheses and slashes it holds -/
theorem even_quoted (h1 : '"' ∉ text) (h2 : '\\' ∉ text) : Even ('"' :: (text ++ ['"'])) where
  clean := (literalText_plain h1 h2).clean
  head := by simp
  closed e he := by
    have hinner : text.foldl Extent.next ⟨e.depth, e.opened, true⟩ = _ := foldl_next_quoted h1 rfl
    have hopen : e.next '"' = ⟨e.depth, e.opened, true⟩ := by simp [Extent.next, he]
    rw [List.foldl_cons, List.foldl_append, hopen, hinner]
    simp [Extent.next, ← he]
  level e he part rest hpart := by
    have hopen : e.next '"' = ⟨e.depth, e.opened, true⟩ := by simp [Extent.next, he]
    cases part with
    | nil => rfl
    | cons c part =>
      obtain ⟨rfl, hinner⟩ := List.cons.inj hpart
      rw [List.foldl_cons, hopen]
      rcases List.append_eq_append_iff.1 hinner with ⟨more, hmore, -⟩ | ⟨more, rfl, hmore⟩
      · have hpart : '"' ∉ part := fun hm => h1 (hmore ▸ List.mem_append_left _ hm)
        rw [foldl_next_quoted hpart rfl]
      · rw [List.foldl_append, foldl_next_quoted h1 rfl]
        rcases List.append_eq_singleton_iff.1 hmore.symm with ⟨rfl, -⟩ | ⟨rfl, -⟩
        · rfl
        · simp [Extent.next]
  balanced := balanced_quoted h1

end Quoted

/-! ## Texts of tokens -/

/-- what follows a token without a blank belongs to it -/
theorem tokensFrom_append {p : Place} {a : List Char} (ha : tokensFrom p a = some (a, [])) (b : List Char) :
    tokensFrom p (a ++ b) = (tokensFrom .code b).map fun r => (a ++ r.1, r.2) := by
  induction a generalizing p with
  | nil =>
    have hp : p = .code := placeAfter_of_tokensFrom ha
    simp [hp]
  | cons c a ih =>
    have hc : p = .code → isBlank c = false := by
      rintro rfl
      by_contra hblank
      rw [tokensFrom_blank (Bool.not_eq_false _ ▸ hblank)] at ha
      obtain ⟨r, -, hr⟩ := Option.map_eq_some_iff.1 ha
      cases hr
    rw [tokensFrom_char hc] at ha
    obtain ⟨r, hr, heq⟩ := Option.map_eq_some_iff.1 ha
    obtain ⟨h1, h2⟩ := Prod.mk.inj heq
    have hrest : tokensFrom (p.next c) a = some (a, []) := by rw [hr, ← (List.cons.inj h1).2, ← h2]
    rw [List.cons_append, tokensFrom_char hc, ih hrest, Option.map_map]
    rfl

theorem IsToken.append {a b : List Char} (ha : IsToken a) (hb : IsToken b) : IsToken (a ++ b) := by
  refine ⟨List.append_ne_nil_of_left_ne_nil ha.1 b, ?_⟩
  rw [tokensFrom_append ha.2, hb.2]
  rfl

theorem isToken_plain {text : List Char} (hne : text ≠ []) (h : ∀ c ∈ text, isBlank c = false ∧ c ≠ '"') :
    IsToken text := by
  refine ⟨hne, ?_⟩
  have := tokensFrom_plain h []
  rw [List.append_nil] at this
  rw [this]
  simp [tokensFrom]

theorem IsWord.token {text : List Char} (h : IsWord text) : IsToken text :=
  isToken_plain h.nonempty fun c hc => ⟨blank_of_wordChar (h.chars c hc), ne_of_wordChar (h.chars c hc) (by decide)⟩

/-- tokens with one space between them -/
def Tidy (text : List Char) : Prop := ∃ tokens, tokens ≠ [] ∧ (∀ t ∈ tokens, IsToken t) ∧ joinTokens tokens = text

theorem IsToken.tidy {text : List Char} (h : IsToken text) : Tidy text :=
  ⟨[text], List.cons_ne_nil _ _, by simpa using h, joinTokens_singleton text⟩

theorem Tidy.space {a b : List Char} (ha : Tidy a) (hb : Tidy b) : Tidy (a ++ ' ' :: b) := by
  obtain ⟨xs, hx, htx, rfl⟩ := ha
  obtain ⟨ys, hy, hty, rfl⟩ := hb
  refine ⟨xs ++ ys, List.append_ne_nil_of_left_ne_nil hx ys, fun t ht => ?_, joinTokens_append hx hy⟩
  rcases List.mem_append.1 ht with ht | ht
  · exact htx t ht
  · exact hty t ht

/-- a token that follows without a space belongs to the last token -/
theorem Tidy.append {a b : List Char} (ha : Tidy a) (hb : IsToken b) : Tidy (a ++ b) := by
  obtain ⟨xs, hx, htx, rfl⟩ := ha
  obtain ⟨init, last, rfl⟩ := (List.eq_nil_or_concat' xs).resolve_left hx
  have hlast : IsToken (last ++ b) := (htx last (by simp)).append hb
  by_cases hinit : init = []
  · subst hinit
    simpa using hlast.tidy
  · have htidy : Tidy (joinTokens init) := ⟨init, hinit, fun t ht => htx t (List.mem_append_left _ ht), rfl⟩
    rw [joinTokens_append hinit (List.cons_ne_nil _ _), joinTokens_singleton, List.append_assoc, List.cons_append]
    exact htidy.space hlast.tidy

theorem Tidy.prepend {a b : List Char} (hb : Tidy b) (ha : IsToken a) : Tidy (a ++ b) := by
  obtain ⟨ys, hy, hty, rfl⟩ := hb
  obtain ⟨first, rest, rfl⟩ := List.exists_cons_of_ne_nil hy
  have hfirst : IsToken (a ++ first) := ha.append (hty first List.mem_cons_self)
  by_cases hrest : rest = []
  · subst hrest
    simpa using hfirst.tidy
  · have htidy : Tidy (joinTokens rest) := ⟨rest, hrest, fun t ht => hty t (List.mem_cons_of_mem _ ht), rfl⟩
    rw [joinTokens_cons hrest, ← List.append_assoc]
    exact hfirst.tidy.space htidy

theorem tidy_intercalate {parts : List (List Char)} (hne : parts ≠ []) (h : ∀ part ∈ parts, Tidy part) :
    Tidy (List.intercalate ", ".toList parts) := by
  induction parts with
  | nil => exact absurd rfl hne
  | cons part parts ih =>
    have hpart := h part List.mem_cons_self
    cases parts with
    | nil => simpa [List.intercalate] using hpart
    | cons next parts =>
      have hrest := ih (List.cons_ne_nil _ _) fun x hx => h x (List.mem_cons_of_mem _ hx)
      have hcomma : IsToken [','] := ⟨by decide, by decide⟩
      have hall := (hpart.append hcomma).space hrest
      rw [List.intercalate_cons_cons]
      simpa using hall

end EntityScaffold.Line

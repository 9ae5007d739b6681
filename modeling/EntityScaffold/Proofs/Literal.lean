import EntityScaffold.Line.FieldLine
import EntityScaffold.Proofs.Lines

/-!
Literals, comments and tokens. Both readings of a line go character by character from a place
(`placeAfter`), so they are taken apart at any point of a line: a text without comment is passed over
(`splitCommentFrom_append`), and a blank outside literals ends a token (`tokens?_append_blank`). Tokens are
read back from their joined text (`tokens?_joinTokens`).
-/

namespace EntityScaffold.Line

open Text

/-! ## Places -/

/-- where the reader stands after a text -/
def placeAfter (p : Place) (text : List Char) : Place := text.foldl Place.next p

@[simp] theorem placeAfter_nil (p : Place) : placeAfter p [] = p := rfl

@[simp] theorem placeAfter_cons (p : Place) (c : Char) (text : List Char) :
    placeAfter p (c :: text) = placeAfter (p.next c) text := rfl

@[simp] theorem placeAfter_append (p : Place) (a b : List Char) :
    placeAfter p (a ++ b) = placeAfter (placeAfter p a) b := by
  simp [placeAfter, List.foldl_append]

theorem blank_ne_quote {c : Char} (h : isBlank c = true) : c ≠ '"' := by
  rintro rfl
  exact absurd h (by decide)

theorem next_code_of_blank {c : Char} (h : isBlank c = true) : Place.code.next c = .code := by
  simp [Place.next, blank_ne_quote h]

/-- a blank inside a literal leaves the reader inside it -/
theorem next_eq_code_of_blank {p : Place} {c : Char} (h : isBlank c = true) (hp : p.next c = .code) : p = .code := by
  cases p with
  | code => rfl
  | literal =>
    simp only [Place.next, blank_ne_quote h, if_false] at hp
    split at hp <;> cases hp
  | escape => cases hp

theorem placeAfter_code_blanks {text : List Char} (h : ∀ c ∈ text, isBlank c = true) :
    placeAfter .code text = .code := by
  induction text with
  | nil => rfl
  | cons c text ih =>
    rw [placeAfter_cons, next_code_of_blank (h c List.mem_cons_self)]
    exact ih fun x hx => h x (List.mem_cons_of_mem _ hx)

theorem placeAfter_of_no_quote {text : List Char} (h : '"' ∉ text) : placeAfter .code text = .code := by
  induction text with
  | nil => rfl
  | cons c text ih =>
    have hc : c ≠ '"' := fun e => h (e ▸ List.mem_cons_self)
    have hnext : Place.code.next c = .code := by simp [Place.next, hc]
    rw [placeAfter_cons, hnext]
    exact ih fun hm => h (List.mem_cons_of_mem _ hm)

theorem placeAfter_eq_code_of_blanks {p : Place} {text : List Char} (h : ∀ c ∈ text, isBlank c = true)
    (hp : placeAfter p text = .code) : p = .code := by
  induction text generalizing p with
  | nil => exact hp
  | cons c text ih =>
    have := ih (fun x hx => h x (List.mem_cons_of_mem _ hx)) hp
    exact next_eq_code_of_blank (h c List.mem_cons_self) this

/-! ## Comments -/

/-- no comment starts in the text when it is read from a place -/
def NoComment (p : Place) (text : List Char) : Prop := splitCommentFrom p text = (text, none)

theorem splitCommentFrom_cons (p : Place) (c : Char) (rest : List Char) :
    splitCommentFrom p (c :: rest) =
      if p = .code ∧ ['/', '/'] <+: c :: rest then ([], some (c :: rest))
      else (c :: (splitCommentFrom (p.next c) rest).1, (splitCommentFrom (p.next c) rest).2) := by
  simp only [splitCommentFrom, Bool.and_eq_true, decide_eq_true_eq, List.isPrefixOf_iff_prefix]

/-- a split line is the code followed by the comment -/
theorem splitCommentFrom_append_eq (p : Place) (text : List Char) :
    (splitCommentFrom p text).1 ++ (splitCommentFrom p text).2.getD [] = text := by
  induction text generalizing p with
  | nil => rfl
  | cons c rest ih =>
    rw [splitCommentFrom_cons]
    split
    · rfl
    · simpa using ih (p.next c)

theorem noComment_iff {p : Place} {text : List Char} : NoComment p text ↔ (splitCommentFrom p text).2 = none := by
  constructor
  · intro h
    rw [h]
  · intro h
    have := splitCommentFrom_append_eq p text
    rw [h, Option.getD_none, List.append_nil] at this
    exact Prod.ext this h

theorem noComment_cons {p : Place} {c : Char} {rest : List Char} :
    NoComment p (c :: rest) ↔ ¬(p = .code ∧ ['/', '/'] <+: c :: rest) ∧ NoComment (p.next c) rest := by
  rw [noComment_iff, splitCommentFrom_cons, noComment_iff]
  split
  · next h => exact ⟨nofun, fun hc => absurd h hc.1⟩
  · next h => exact ⟨fun hc => ⟨h, hc⟩, fun hc => hc.2⟩

theorem NoComment.left {p : Place} {a b : List Char} (h : NoComment p (a ++ b)) : NoComment p a := by
  induction a generalizing p with
  | nil => rfl
  | cons c a ih =>
    rw [List.cons_append, noComment_cons] at h
    refine noComment_cons.2 ⟨fun hc => h.1 ⟨hc.1, ?_⟩, ih h.2⟩
    exact hc.2.trans (by rw [← List.cons_append]; exact List.prefix_append _ _)

theorem NoComment.right {p : Place} {a b : List Char} (h : NoComment p (a ++ b)) : NoComment (placeAfter p a) b := by
  induction a generalizing p with
  | nil => exact h
  | cons c a ih => exact ih (noComment_cons.1 h).2

/-- **Passing over a text.** A text without comment is passed over, unless a slash at its end meets another. -/
theorem splitCommentFrom_append {p : Place} {a b : List Char} (ha : NoComment p a)
    (hab : a.getLast? = some '/' → b.head? ≠ some '/') :
    splitCommentFrom p (a ++ b) =
      (a ++ (splitCommentFrom (placeAfter p a) b).1, (splitCommentFrom (placeAfter p a) b).2) := by
  induction a generalizing p with
  | nil => rfl
  | cons c a ih =>
    obtain ⟨h1, h2⟩ := noComment_cons.1 ha
    rw [List.cons_append, splitCommentFrom_cons, if_neg]
    · have hrest : a.getLast? = some '/' → b.head? ≠ some '/' := by
        intro h
        refine hab ?_
        cases a with
        | nil => cases h
        | cons d a => rw [List.getLast?_cons_cons]; exact h
      rw [ih h2 hrest]
      rfl
    · rintro ⟨hp, hpre⟩
      cases a with
      | nil =>
        -- the slash stands last: the next one would be the first of `b`
        cases b with
        | nil => exact absurd (hpre.length_le) (by simp)
        | cons d b =>
          simp only [List.nil_append, List.cons_prefix_cons] at hpre
          exact hab (by rw [← hpre.1]; rfl) (by rw [← hpre.2.1]; rfl)
      | cons d a =>
        refine h1 ⟨hp, ?_⟩
        simp only [List.cons_append, List.cons_prefix_cons] at hpre ⊢
        exact ⟨hpre.1, hpre.2.1, List.nil_prefix⟩

theorem NoComment.append {p : Place} {a b : List Char} (ha : NoComment p a) (hb : NoComment (placeAfter p a) b)
    (hab : a.getLast? = some '/' → b.head? ≠ some '/') : NoComment p (a ++ b) := by
  rw [noComment_iff, splitCommentFrom_append ha hab]
  exact noComment_iff.1 hb

theorem noComment_blanks {text : List Char} (h : ∀ c ∈ text, isBlank c = true) (p : Place) : NoComment p text := by
  induction text generalizing p with
  | nil => rfl
  | cons c text ih =>
    refine noComment_cons.2 ⟨fun hc => ?_, ih (fun x hx => h x (List.mem_cons_of_mem _ hx)) _⟩
    have hslash := (List.cons_prefix_cons.1 hc.2).1
    exact absurd (h c List.mem_cons_self) (by rw [← hslash]; decide)

/-- where a comment starts the reader stands outside literals -/
theorem splitCommentFrom_some {p : Place} {text code comment : List Char}
    (h : splitCommentFrom p text = (code, some comment)) :
    text = code ++ comment ∧ NoComment p code ∧ placeAfter p code = .code ∧ ∃ r, comment = '/' :: '/' :: r := by
  induction text generalizing p code with
  | nil => cases h
  | cons c rest ih =>
    rw [splitCommentFrom_cons] at h
    split at h
    · next hc =>
      cases h
      obtain ⟨r, hr⟩ := hc.2
      exact ⟨rfl, rfl, hc.1, r, hr.symm⟩
    · next hc =>
      simp only [Prod.mk.injEq] at h
      obtain ⟨h1, h2⟩ := h
      have hrest : splitCommentFrom (p.next c) rest = ((splitCommentFrom (p.next c) rest).1, some comment) := by
        rw [← h2]
      obtain ⟨i1, i2, i3, i4⟩ := ih hrest
      subst h1
      refine ⟨by rw [List.cons_append, ← i1], noComment_cons.2 ⟨fun hpre => hc ⟨hpre.1, hpre.2.trans ?_⟩, i2⟩, i3, i4⟩
      nth_rewrite 2 [i1]
      rw [← List.cons_append]
      exact List.prefix_append _ _

/-! ## Tokens -/

/-- a text that is one token -/
def IsToken (text : List Char) : Prop := text ≠ [] ∧ tokensFrom .code text = some (text, [])

theorem tokensFrom_blank {c : Char} (hc : isBlank c = true) (rest : List Char) :
    tokensFrom .code (c :: rest) = (tokensFrom .code rest).map fun r => ([], consToken r.1 r.2) := by
  rw [tokensFrom, if_pos (by simp [hc])]

theorem tokensFrom_char {p : Place} {c : Char} (hc : p = .code → isBlank c = false) (rest : List Char) :
    tokensFrom p (c :: rest) = (tokensFrom (p.next c) rest).map fun r => (c :: r.1, r.2) := by
  rw [tokensFrom, if_neg]
  simp only [Bool.and_eq_true, decide_eq_true_eq, not_and, Bool.not_eq_true]
  exact hc

theorem tokensFrom_isSome (p : Place) (text : List Char) :
    (tokensFrom p text).isSome = decide (placeAfter p text = .code) := by
  induction text generalizing p with
  | nil => by_cases h : p = .code <;> simp [tokensFrom, h]
  | cons c rest ih =>
    by_cases h : p = .code ∧ isBlank c = true
    · rw [h.1, tokensFrom_blank h.2, Option.isSome_map, ih, placeAfter_cons, next_code_of_blank h.2]
    · rw [tokensFrom_char (by simpa using h), Option.isSome_map, ih, placeAfter_cons]

theorem placeAfter_of_tokensFrom {p : Place} {text : List Char} {r : List Char × List (List Char)}
    (h : tokensFrom p text = some r) : placeAfter p text = .code := by
  have := tokensFrom_isSome p text
  rw [h] at this
  simpa using this

theorem placeAfter_of_tokens? {text : List Char} {tokens : List (List Char)} (h : tokens? text = some tokens) :
    placeAfter .code text = .code := by
  obtain ⟨r, hr, -⟩ := Option.map_eq_some_iff.1 h
  exact placeAfter_of_tokensFrom hr

theorem tokens?_isSome {text : List Char} (h : placeAfter .code text = .code) :
    ∃ tokens, tokens? text = some tokens := by
  have := tokensFrom_isSome .code text
  rw [h, decide_eq_true rfl, Option.isSome_iff_exists] at this
  obtain ⟨r, hr⟩ := this
  exact ⟨_, by rw [tokens?, hr]; rfl⟩

theorem consToken_append (piece : List Char) (a b : List (List Char)) :
    consToken piece (a ++ b) = consToken piece a ++ b := by
  unfold consToken; split <;> rfl

theorem tokensFrom_append_blank {p : Place} {a : List Char} (ha : placeAfter p a = .code) {c : Char}
    (hc : isBlank c = true) (b : List Char) :
    tokensFrom p (a ++ c :: b) =
      (tokensFrom p a).bind fun x => (tokensFrom .code b).map fun y => (x.1, x.2 ++ consToken y.1 y.2) := by
  induction a generalizing p with
  | nil =>
    simp only [placeAfter_nil] at ha
    rw [ha, List.nil_append, tokensFrom_blank hc]
    simp [tokensFrom]
  | cons d a ih =>
    rw [placeAfter_cons] at ha
    by_cases h : p = .code ∧ isBlank d = true
    · rw [h.1, next_code_of_blank h.2] at ha
      rw [h.1, List.cons_append, tokensFrom_blank h.2, tokensFrom_blank h.2, ih ha]
      cases tokensFrom .code a <;> cases tokensFrom .code b <;> simp [consToken_append]
    · have h' : p = .code → isBlank d = false := by simpa using h
      rw [List.cons_append, tokensFrom_char h', tokensFrom_char h', ih ha]
      cases tokensFrom (p.next d) a <;> cases tokensFrom .code b <;> simp

/-- **A blank ends a token.** Outside literals the tokens on both sides of a blank are the tokens of the whole. -/
theorem tokens?_append_blank {a : List Char} (ha : placeAfter .code a = .code) {c : Char} (hc : isBlank c = true)
    (b : List Char) : tokens? (a ++ c :: b) = (tokens? a).bind fun x => (tokens? b).map (x ++ ·) := by
  unfold tokens?
  rw [tokensFrom_append_blank ha hc]
  cases tokensFrom .code a <;> cases tokensFrom .code b <;> simp [consToken_append]

theorem tokens?_blanks_append {lead : List Char} (h : ∀ c ∈ lead, isBlank c = true) (text : List Char) :
    tokens? (lead ++ text) = tokens? text := by
  induction lead with
  | nil => rfl
  | cons c lead ih =>
    rw [List.cons_append, ← ih fun x hx => h x (List.mem_cons_of_mem _ hx)]
    have := tokens?_append_blank (a := []) rfl (h c List.mem_cons_self) (lead ++ text)
    rw [List.nil_append] at this
    rw [this]
    cases tokens? (lead ++ text) <;> rfl

theorem tokens?_append_blanks {text tail : List Char} (ht : placeAfter .code text = .code)
    (h : ∀ c ∈ tail, isBlank c = true) : tokens? (text ++ tail) = tokens? text := by
  cases tail with
  | nil => rw [List.append_nil]
  | cons c tail =>
    have hnil : tokens? tail = some [] := by
      have := tokens?_blanks_append (fun x hx => h x (List.mem_cons_of_mem _ hx)) []
      rw [List.append_nil] at this
      rw [this]
      rfl
    rw [tokens?_append_blank ht (h c List.mem_cons_self), hnil]
    cases tokens? text <;> simp

theorem IsToken.tokens? {text : List Char} (h : IsToken text) : tokens? text = some [text] := by
  rw [Line.tokens?, h.2]
  simp [consToken, h.1]

theorem IsToken.place {text : List Char} (h : IsToken text) : placeAfter .code text = .code :=
  placeAfter_of_tokensFrom h.2

/-- **What the tokenizer yields are tokens**: parts of the text, each a token by itself, and without comment if the
text is. The first piece is read from the place of the text, all tokens after it from outside literals. -/
theorem tokensFrom_spec {p : Place} {text piece : List Char} {tokens : List (List Char)}
    (h : tokensFrom p text = some (piece, tokens)) :
    tokensFrom p piece = some (piece, []) ∧ piece <+: text ∧
      ∀ t ∈ tokens, IsToken t ∧ t <:+: text ∧ (NoComment p text → NoComment .code t) := by
  induction text generalizing p piece tokens with
  | nil =>
    simp only [tokensFrom] at h
    split at h
    · next hp => cases h; exact ⟨by simp [tokensFrom, hp], List.prefix_rfl, by simp⟩
    · cases h
  | cons c rest ih =>
    by_cases hc : p = .code ∧ isBlank c = true
    · rw [hc.1, tokensFrom_blank hc.2] at h
      obtain ⟨⟨piece', tokens'⟩, hr, h⟩ := Option.map_eq_some_iff.1 h
      cases h
      obtain ⟨h1, h2, h3⟩ := ih hr
      have hnext : ∀ {t}, NoComment p (c :: rest) → (NoComment .code rest → NoComment .code t) → NoComment .code t := by
        intro t hn himp
        have := (noComment_cons.1 hn).2
        rw [hc.1, next_code_of_blank hc.2] at this
        exact himp this
      refine ⟨by simp [hc.1, tokensFrom], List.nil_prefix, fun t ht => ?_⟩
      unfold consToken at ht
      split at ht
      · obtain ⟨i1, i2, i3⟩ := h3 t ht
        exact ⟨i1, i2.trans (List.suffix_cons c rest).isInfix, fun hn => hnext hn i3⟩
      · next hne =>
        rcases List.mem_cons.1 ht with rfl | ht
        · refine ⟨⟨hne, h1⟩, h2.isInfix.trans (List.suffix_cons c rest).isInfix, fun hn => hnext hn fun hr => ?_⟩
          obtain ⟨z, hz⟩ := h2
          rw [← hz] at hr
          exact hr.left
        · obtain ⟨i1, i2, i3⟩ := h3 t ht
          exact ⟨i1, i2.trans (List.suffix_cons c rest).isInfix, fun hn => hnext hn i3⟩
    · have hc' : p = .code → isBlank c = false := by simpa using hc
      rw [tokensFrom_char hc'] at h
      obtain ⟨⟨piece', tokens'⟩, hr, h⟩ := Option.map_eq_some_iff.1 h
      cases h
      obtain ⟨h1, h2, h3⟩ := ih hr
      refine ⟨by rw [tokensFrom_char hc', h1]; rfl, by simpa using h2, fun t ht => ?_⟩
      obtain ⟨i1, i2, i3⟩ := h3 t ht
      exact ⟨i1, i2.trans (List.suffix_cons c rest).isInfix, fun hn => i3 (noComment_cons.1 hn).2⟩

theorem tokens?_spec {text : List Char} {tokens : List (List Char)} (h : tokens? text = some tokens) :
    ∀ t ∈ tokens, IsToken t ∧ t <:+: text ∧ (NoComment .code text → NoComment .code t) := by
  obtain ⟨⟨piece, rest⟩, hr, h⟩ := Option.map_eq_some_iff.1 h
  obtain ⟨h1, h2, h3⟩ := tokensFrom_spec hr
  subst h
  intro t ht
  simp only [consToken] at ht
  split at ht
  · exact h3 t ht
  · next hne =>
    rcases List.mem_cons.1 ht with rfl | ht
    · refine ⟨⟨hne, h1⟩, h2.isInfix, fun hn => ?_⟩
      obtain ⟨z, hz⟩ := h2
      rw [← hz] at hn
      exact hn.left
    · exact h3 t ht

theorem IsToken.head {text : List Char} (h : IsToken text) (c : Char) (hc : text.head? = some c) :
    isBlank c = false := by
  obtain ⟨hne, htok⟩ := h
  cases text with
  | nil => exact absurd rfl hne
  | cons d rest =>
    obtain rfl : d = c := by simpa using hc
    cases hb : isBlank d with
    | false => rfl
    | true =>
      rw [tokensFrom_blank hb] at htok
      obtain ⟨r, -, hr⟩ := Option.map_eq_some_iff.1 htok
      cases hr

theorem IsToken.tight {text : List Char} (h : IsToken text) : EndsTight text := by
  intro c hc
  obtain ⟨init, rfl⟩ := List.getLast?_eq_some_iff.1 hc
  cases hb : isBlank c with
  | false => rfl
  | true =>
    -- a blank at the end stands outside literals, so it would not belong to the piece before it
    have hp := h.place
    rw [placeAfter_append] at hp
    have hinit := placeAfter_eq_code_of_blanks (by simpa using hb) hp
    have htok := h.2
    rw [tokensFrom_append_blank hinit hb] at htok
    obtain ⟨⟨piece, tokens⟩, hpiece, htok⟩ := Option.bind_eq_some_iff.1 htok
    obtain ⟨y, -, hy⟩ := Option.map_eq_some_iff.1 htok
    have hlen := (tokensFrom_spec hpiece).2.1.length_le
    rw [show piece = init ++ [c] from congrArg Prod.fst hy] at hlen
    simp at hlen

/-! ## Tokens in a row -/

theorem joinTokens_cons {a : List Char} {rest : List (List Char)} (h : rest ≠ []) :
    joinTokens (a :: rest) = a ++ ' ' :: joinTokens rest := by
  obtain ⟨b, rest, rfl⟩ := List.exists_cons_of_ne_nil h
  simp [joinTokens, List.intercalate, List.intersperse]

@[simp] theorem joinTokens_nil : joinTokens [] = [] := rfl

@[simp] theorem joinTokens_singleton (a : List Char) : joinTokens [a] = a := by simp [joinTokens, List.intercalate]

theorem joinTokens_append {a b : List (List Char)} (ha : a ≠ []) (hb : b ≠ []) :
    joinTokens (a ++ b) = joinTokens a ++ ' ' :: joinTokens b := by
  induction a with
  | nil => exact absurd rfl ha
  | cons x a ih =>
    cases a with
    | nil => rw [List.singleton_append, joinTokens_cons hb, joinTokens_singleton]
    | cons y a =>
      rw [List.cons_append, joinTokens_cons (by simp), ih (by simp),
        joinTokens_cons (List.cons_ne_nil y a), List.append_assoc, List.cons_append]

theorem joinTokens_eq_nil {tokens : List (List Char)} (h : ∀ t ∈ tokens, t ≠ []) :
    joinTokens tokens = [] ↔ tokens = [] := by
  cases tokens with
  | nil => simp
  | cons a rest =>
    by_cases hr : rest = []
    · subst hr; simpa using h a List.mem_cons_self
    · rw [joinTokens_cons hr]; simp

theorem mem_joinTokens {tokens : List (List Char)} {c : Char} (h : c ∈ joinTokens tokens) :
    c = ' ' ∨ ∃ t ∈ tokens, c ∈ t := (mem_intercalate h).imp_left List.mem_singleton.1

/-- **Tokens are read back** from their joined text. -/
theorem tokens?_joinTokens {tokens : List (List Char)} (h : ∀ t ∈ tokens, IsToken t) :
    tokens? (joinTokens tokens) = some tokens := by
  induction tokens with
  | nil => rfl
  | cons a rest ih =>
    have ha := h a List.mem_cons_self
    by_cases hr : rest = []
    · subst hr; rw [joinTokens_singleton, ha.tokens?]
    · rw [joinTokens_cons hr, tokens?_append_blank ha.place (by decide), ha.tokens?,
        ih fun t ht => h t (List.mem_cons_of_mem _ ht)]
      rfl

theorem joinTokens_tight {tokens : List (List Char)} (h : ∀ t ∈ tokens, t ≠ [] ∧ EndsTight t) :
    EndsTight (joinTokens tokens) := by
  induction tokens with
  | nil => intro c hc; cases hc
  | cons a rest ih =>
    have hrest := ih fun t ht => h t (List.mem_cons_of_mem _ ht)
    by_cases hr : rest = []
    · subst hr; simpa using (h a List.mem_cons_self).2
    · rw [joinTokens_cons hr, ← List.singleton_append, ← List.append_assoc]
      refine hrest.append fun hnil => hr ?_
      exact (joinTokens_eq_nil fun t ht => (h t (List.mem_cons_of_mem _ ht)).1).1 hnil

/-! ## Clean texts -/

/-- the text stands whole in the code of a line: no comment starts in it, and its literals are closed -/
structure Clean (text : List Char) : Prop where
  noComment : NoComment .code text
  place : placeAfter .code text = .code

theorem clean_nil : Clean [] := ⟨rfl, rfl⟩

theorem clean_blanks {text : List Char} (h : ∀ c ∈ text, isBlank c = true) : Clean text :=
  ⟨noComment_blanks h _, placeAfter_code_blanks h⟩

theorem blanks_head {text : List Char} (h : ∀ c ∈ text, isBlank c = true) : text.head? ≠ some '/' := by
  intro hh
  exact absurd (h '/' (List.mem_of_head? hh)) (by decide)

theorem blanks_last {text : List Char} (h : ∀ c ∈ text, isBlank c = true) : text.getLast? ≠ some '/' := by
  intro hl
  exact absurd (h '/' (List.mem_of_getLast? hl)) (by decide)

/-- clean texts join where no two slashes meet -/
theorem Clean.append {a b : List Char} (ha : Clean a) (hb : Clean b)
    (hab : a.getLast? = some '/' → b.head? ≠ some '/') : Clean (a ++ b) where
  noComment := ha.noComment.append (by rw [ha.place]; exact hb.noComment) hab
  place := by rw [placeAfter_append, ha.place, hb.place]

theorem Clean.append_blanks {a b : List Char} (ha : Clean a) (hb : ∀ c ∈ b, isBlank c = true) : Clean (a ++ b) :=
  ha.append (clean_blanks hb) fun _ => blanks_head hb

theorem Clean.blanks_append {a b : List Char} (hb : Clean b) (ha : ∀ c ∈ a, isBlank c = true) : Clean (a ++ b) :=
  (clean_blanks ha).append hb fun hl => absurd hl (blanks_last ha)

theorem append_blanks_last {a gap : List Char} (hgap : ∀ c ∈ gap, isBlank c = true) (hne : gap ≠ []) :
    (a ++ gap).getLast? ≠ some '/' := by
  rw [List.getLast?_append_of_ne_nil _ hne]
  exact blanks_last hgap

theorem Clean.join {a b gap : List Char} (ha : Clean a) (hb : Clean b) (hgap : ∀ c ∈ gap, isBlank c = true)
    (hne : gap ≠ []) : Clean (a ++ gap ++ b) :=
  (ha.append_blanks hgap).append hb fun hl => absurd hl (append_blanks_last hgap hne)

/-- a clean text is the end of a clean text as soon as it starts outside literals -/
theorem Clean.right {a b : List Char} (h : Clean (a ++ b)) (ha : placeAfter .code a = .code) : Clean b where
  noComment := by have := h.noComment.right; rwa [ha] at this
  place := by have := h.place; rwa [placeAfter_append, ha] at this

theorem Clean.left {a b : List Char} (h : Clean (a ++ b)) (ha : placeAfter .code a = .code) : Clean a :=
  ⟨h.noComment.left, ha⟩

theorem splitComment_clean {a : List Char} (ha : Clean a) : splitComment a = (a, none) := ha.noComment

/-- after a clean text and a blank the next text is split on its own -/
theorem splitComment_append {a b : List Char} (ha : Clean a) (hlast : a.getLast? ≠ some '/') :
    splitComment (a ++ b) = (a ++ codeOf b, commentOf? b) := by
  unfold splitComment codeOf commentOf? splitComment
  rw [splitCommentFrom_append ha.noComment fun h => absurd h hlast, ha.place]

theorem tokens?_append_blanks_append {a b : List Char} (ha : placeAfter .code a = .code) {gap : List Char}
    (hgap : ∀ c ∈ gap, isBlank c = true) (hne : gap ≠ []) :
    tokens? (a ++ gap ++ b) = (tokens? a).bind fun x => (tokens? b).map (x ++ ·) := by
  obtain ⟨c, gap, rfl⟩ := List.exists_cons_of_ne_nil hne
  rw [List.append_assoc, List.cons_append, tokens?_append_blank ha (hgap c List.mem_cons_self),
    tokens?_blanks_append fun x hx => hgap x (List.mem_cons_of_mem _ hx)]

theorem IsToken.clean {text : List Char} (h : IsToken text) (hn : NoComment .code text) : Clean text := ⟨hn, h.place⟩

theorem clean_joinTokens {tokens : List (List Char)} (h : ∀ t ∈ tokens, Clean t) : Clean (joinTokens tokens) := by
  induction tokens with
  | nil => exact clean_nil
  | cons a rest ih =>
    have hrest := ih fun t ht => h t (List.mem_cons_of_mem _ ht)
    by_cases hr : rest = []
    · subst hr; simpa using h a List.mem_cons_self
    · rw [joinTokens_cons hr, List.append_cons]
      exact (h a List.mem_cons_self).join hrest space_blank (List.cons_ne_nil _ _)

/-- the last of some joined texts is clean if all are and the others close their literals -/
theorem clean_last {tokens : List (List Char)} {last : List Char} (h : ∀ t ∈ tokens, Clean t)
    (hall : Clean (joinTokens (tokens ++ [last]))) : Clean last := by
  by_cases ht : tokens = []
  · subst ht; simpa using hall
  · rw [joinTokens_append ht (by simp), joinTokens_singleton, ← List.singleton_append, ← List.append_assoc] at hall
    exact hall.right ((clean_joinTokens h).append_blanks space_blank).place

end EntityScaffold.Line

import EntityScaffold.Proofs.SpacedArguments

/-!
Spacing inside a clause. A blank outside literals ends a token, so blanks at a place of a clause decide into how many
tokens it is cut, where it seems to end, and where its text has a space once its tokens are joined again. Between the
parentheses of the clause it goes on over the place all the same, and what follows it is what followed before
(`splitClauseFrom_meet`). So with blanks at a place the text of the clause has one space more there, or none
(`readField_blanks`), and next to a mark the readers of its arguments trim that space. Only the name at the very start
of the arguments is looked for without trimming (`readField_unled`). Main statement: `readField_respaced`.
-/

namespace EntityScaffold.Line

open Text

/-! ## Tokens around a place -/

section Tokens

variable {text a b : List Char} {tokens xs ys : List (List Char)}

/-- a literal that stays open does so behind code -/
theorem tokens?_append_none (ha : placeAfter .code a = .code) (hb : tokens? b = none) : tokens? (a ++ b) = none := by
  refine Option.eq_none_iff_forall_ne_some.2 fun tokens hsome => ?_
  have hplace := placeAfter_of_tokens? hsome
  rw [placeAfter_append, ha] at hplace
  obtain ⟨tokens', htokens'⟩ := tokens?_isSome hplace
  rw [htokens'] at hb
  cases hb

/-- a text that starts with a parenthesis starts with its first token -/
theorem tokens?_open {t : List Char} (h : tokens? ('(' :: text) = some (t :: tokens)) :
    t <+: '(' :: text ∧ t.head? = some '(' := by
  have ht : IsToken t := (tokens?_spec h t List.mem_cons_self).1
  have hstart : trimStart ('(' :: text) = '(' :: text := trimStart_eq_self fun d hd => by
    rw [← Option.some.inj hd]
    decide
  obtain ⟨after, hafter, -⟩ := tokens?_cons_start h hstart
  have hhead := congrArg List.head? hafter
  rw [List.head?_append_of_ne_nil _ ht.1] at hhead
  exact ⟨⟨after, hafter.symm⟩, hhead.symm⟩

theorem tokens?_init {t : List Char} (h : tokens? text = some (t :: xs ++ ys)) : ∃ a b, text = a ++ b ∧
    tokens? a = some (t :: xs) ∧ tokens? b = some ys := by
  induction xs generalizing text t with
  | nil =>
    obtain ⟨lead, tail, rfl, hlead, -, htail⟩ := tokens?_cons h
    have ht : IsToken t := (tokens?_spec h t List.mem_cons_self).1
    exact ⟨lead ++ t, tail, by rw [List.append_assoc], by rw [tokens?_blanks_append hlead, ht.tokens?], htail⟩
  | cons next xs ih =>
    obtain ⟨lead, tail, rfl, hlead, hblank, htail⟩ := tokens?_cons h
    have ht : IsToken t := (tokens?_spec h t List.mem_cons_self).1
    obtain ⟨a, b, rfl, ha, hb⟩ := ih htail
    refine ⟨lead ++ (t ++ a), b, by simp, ?_, hb⟩
    cases a with
    | nil => cases ha
    | cons c a =>
      have hc : isBlank c = true := hblank c rfl
      rw [tokens?_blank hc] at ha
      rw [tokens?_blanks_append hlead, tokens?_append_blank ht.place hc, ht.tokens?, ha]
      rfl

theorem foldl_next_blanks {gap : List Char} (h : ∀ c ∈ gap, isBlank c = true) (e : Extent) :
    gap.foldl Extent.next e = e := by
  induction gap with
  | nil => rfl
  | cons c gap ih =>
    have hc : ∀ d, isBlank d = false → c ≠ d := by
      rintro d hd rfl
      rw [h c List.mem_cons_self] at hd
      cases hd
    have hnext : e.next c = e := by
      simp [Extent.next, hc '"' (by decide), hc '(' (by decide), hc ')' (by decide)]
    rw [List.foldl_cons, hnext]
    exact ih fun x hx => h x (List.mem_cons_of_mem _ hx)

/-- the blanks between tokens do not move the extent of a clause -/
theorem foldl_next_tokens (h : tokens? text = some tokens) (e : Extent) :
    text.foldl Extent.next e = tokens.flatten.foldl Extent.next e := by
  induction tokens generalizing text e with
  | nil => exact foldl_next_blanks (blanks_of_no_tokens h) e
  | cons t tokens ih =>
    obtain ⟨lead, tail, rfl, hlead, -, htail⟩ := tokens?_cons h
    rw [List.foldl_append, List.foldl_append, foldl_next_blanks hlead, ih htail, List.flatten_cons, List.foldl_append]

/-- the text ends with a blank or is empty -/
def EndsBlank (text : List Char) : Prop := ∀ c, text.getLast? = some c → isBlank c = true

theorem EndsBlank.behind {front tail : List Char} {c : Char} (hc : isBlank c = true) (h : EndsBlank tail) :
    EndsBlank (front ++ c :: tail) := by
  intro d hd
  rw [List.getLast?_append, List.getLast?_cons] at hd
  cases hlast : tail.getLast? with
  | none =>
    rw [hlast] at hd
    exact Option.some.inj hd ▸ hc
  | some last =>
    rw [hlast] at hd
    exact Option.some.inj hd ▸ h last hlast

/-- a text behind a token keeps its tokens, or the first of them goes on where the token ends -/
theorem tokens?_token_meet {t : List Char} (ht : IsToken t) (hb : tokens? b = some ys) :
    StartsBlank b ∧ tokens? (t ++ b) = some (t :: ys) ∨
      ∃ q rest, ys = q :: rest ∧ q <+: b ∧ tokens? (t ++ b) = some ((t ++ q) :: rest) := by
  obtain ⟨⟨q, rest⟩, hr, rfl⟩ := Option.map_eq_some_iff.1 hb
  have hwhole : tokens? (t ++ b) = some ((t ++ q) :: rest) := by
    rw [tokens?, tokensFrom_append ht.2, hr]
    simp [consToken, ht.1]
  by_cases hq : q = []
  · subst hq
    obtain ⟨after, rfl, hafter, -⟩ := tokensFrom_split hr
    refine Or.inl ⟨hafter, ?_⟩
    rw [hwhole]
    simp [consToken]
  · refine Or.inr ⟨q, rest, ?_, (tokensFrom_spec hr).2.1, hwhole⟩
    simp [consToken, hq]

/-- **Texts that meet.** The tokens of two texts are those of the whole, where blanks stand between them, or the last of
the first text and the first of the second are one. -/
theorem tokens?_meet (ha : tokens? a = some xs) (hb : tokens? b = some ys) :
    (EndsBlank a ∨ StartsBlank b) ∧ tokens? (a ++ b) = some (xs ++ ys) ∨
      ∃ lead init p q rest, a = lead ++ p ∧ tokens? lead = some init ∧ xs = init ++ [p] ∧ ys = q :: rest ∧ q <+: b ∧
        tokens? (a ++ b) = some (init ++ (p ++ q) :: rest) := by
  induction xs generalizing a with
  | nil =>
    have hblanks := blanks_of_no_tokens ha
    refine Or.inl ⟨Or.inl fun c hc => hblanks c (List.mem_of_getLast? hc), ?_⟩
    rw [tokens?_blanks_append hblanks, hb]
    rfl
  | cons t xs ih =>
    obtain ⟨lead, tail, rfl, hlead, hblank, htail⟩ := tokens?_cons ha
    have ht : IsToken t := (tokens?_spec ha t List.mem_cons_self).1
    rw [List.append_assoc, tokens?_blanks_append hlead, List.append_assoc]
    cases tail with
    | nil =>
      cases htail
      rcases tokens?_token_meet ht hb with ⟨hstart, hwhole⟩ | ⟨q, rest, rfl, hq, hwhole⟩
      · exact Or.inl ⟨Or.inr hstart, hwhole⟩
      · have hblanks : tokens? lead = some [] := by
          have hnil := tokens?_blanks_append hlead []
          rwa [List.append_nil] at hnil
        exact Or.inr ⟨lead, [], t, q, rest, by rw [List.append_nil], hblanks, rfl, rfl, hq, hwhole⟩
    | cons c tail =>
      have hc : isBlank c = true := hblank c rfl
      rw [tokens?_blank hc] at htail
      rw [List.cons_append, tokens?_append_blank ht.place hc, ht.tokens?, Option.bind_some]
      rcases ih htail with ⟨hparted, hwhole⟩ | ⟨lead', init, p, q, rest, rfl, hinit, rfl, rfl, hq, hwhole⟩
      · refine Or.inl ⟨hparted.imp_left fun hends => ?_, ?_⟩
        · rw [← List.append_assoc]
          exact hends.behind hc
        · rw [hwhole]
          rfl
      · refine Or.inr ⟨lead ++ (t ++ c :: lead'), t :: init, p, q, rest, by simp, ?_, rfl, rfl, hq, ?_⟩
        · rw [tokens?_blanks_append hlead, tokens?_append_blank ht.place hc, ht.tokens?, hinit]
          rfl
        · rw [hwhole]
          rfl

theorem mem_joinTokens_of_mem {c : Char} (h : tokens? text = some tokens) (hc : c ∈ text) (hblank : isBlank c = false) :
    c ∈ joinTokens tokens := by
  induction tokens generalizing text with
  | nil =>
    rw [blanks_of_no_tokens h c hc] at hblank
    cases hblank
  | cons t tokens ih =>
    obtain ⟨lead, tail, rfl, hlead, -, htail⟩ := tokens?_cons h
    have hmem : c ∈ t ∨ c ∈ joinTokens tokens := by
      rcases List.mem_append.1 hc with hc | hc
      · rw [hlead c hc] at hblank
        cases hblank
      · exact (List.mem_append.1 hc).imp_right (ih htail)
    by_cases hrest : tokens = []
    · subst hrest
      simpa using hmem
    · rw [joinTokens_cons hrest]
      simpa using hmem.imp_right Or.inr

/-- a quote among joined tokens stands in the text behind the same part of its token; blanks between the tokens aside,
what is in front of the part and behind the quote is the same -/
theorem quote_in_tokens (h : tokens? text = some tokens) {lead rest : List Char}
    (hjoin : joinTokens tokens = lead ++ '"' :: rest) : ∃ front front' part tail, lead = front ++ part ∧
      text = front' ++ (part ++ '"' :: tail) ∧ placeAfter .code front' = .code ∧ ('"' ∉ rest → '"' ∉ tail) := by
  induction tokens generalizing text lead with
  | nil => exact absurd hjoin.symm (by simp [joinTokens])
  | cons t tokens ih =>
    obtain ⟨gap, after, rfl, hgap, -, hafter⟩ := tokens?_cons h
    have ht : IsToken t := (tokens?_spec h t List.mem_cons_self).1
    by_cases hlast : tokens = []
    · subst hlast
      rw [joinTokens_singleton] at hjoin
      subst hjoin
      refine ⟨[], gap, lead, rest ++ after, rfl, by simp, placeAfter_code_blanks hgap, fun hrest hmem => ?_⟩
      rcases List.mem_append.1 hmem with hmem | hmem
      · exact hrest hmem
      · exact blank_ne_quote (blanks_of_no_tokens hafter _ hmem) rfl
    rw [joinTokens_cons hlast] at hjoin
    rcases List.append_eq_append_iff.1 hjoin with ⟨more, rfl, hmore⟩ | ⟨more, rfl, hmore⟩
    · cases more with
      | nil => exact absurd (List.cons.inj hmore).1 (by decide)
      | cons c more =>
        obtain ⟨hspace, hlater⟩ := List.cons.inj hmore
        subst hspace
        obtain ⟨front, front', part, tail, rfl, rfl, hplace, hquote⟩ := ih hafter hlater
        refine ⟨t ++ ' ' :: front, gap ++ (t ++ front'), part, tail, by simp, by simp, ?_, hquote⟩
        rw [placeAfter_append, placeAfter_append, placeAfter_code_blanks hgap, ht.place, hplace]
    · cases more with
      | nil => exact absurd (List.cons.inj hmore).1.symm (by decide)
      | cons c more =>
        obtain ⟨rfl, rfl⟩ := List.cons.inj hmore
        refine ⟨[], gap, lead, more ++ after, rfl, by simp, placeAfter_code_blanks hgap, fun hrest hmem => hrest ?_⟩
        rcases List.mem_append.1 hmem with hmem | hmem
        · exact List.mem_append_left _ hmem
        · exact List.mem_append_right _ (List.mem_cons_of_mem _ (mem_joinTokens_of_mem hafter hmem (by decide)))

/-- without a quote the reader stays in a literal -/
theorem placeAfter_no_quote {p : Place} (h : '"' ∉ text) (hp : placeAfter p text = .code) : p = .code := by
  induction text generalizing p with
  | nil => exact hp
  | cons c text ih =>
    simp only [List.mem_cons, not_or] at h
    have hnext := ih h.2 hp
    cases p with
    | code => rfl
    | literal =>
      simp only [Place.next, Ne.symm h.1, if_false] at hnext
      split at hnext <;> cases hnext
    | escape => cases hnext

/-- a literal that ends with the key of the name is in the text as it is among its tokens -/
theorem KeyedLast.of_tokens (h : tokens? text = some tokens) (hkeyed : KeyedLast (joinTokens tokens)) :
    KeyedLast text := by
  obtain ⟨found, gap, rest, hjoin, ⟨lead, gap', rfl, hgap'⟩, hgap, hrest⟩ := hkeyed
  have hquoted : joinTokens tokens = (lead ++ ("name".toList ++ (gap' ++ [':'] ++ gap))) ++ '"' :: rest := by
    rw [hjoin]
    simp
  obtain ⟨front, front', part, tail, hlead, rfl, hplace, htail⟩ := quote_in_tokens h hquoted
  -- the last quote closes a literal, so its token has another one in front of it
  have hpart : '"' ∈ part := by
    by_contra hnone
    have hwhole := placeAfter_of_tokens? h
    have hquote : placeAfter .code ['"'] = .literal := rfl
    rw [placeAfter_append, hplace, placeAfter_append, placeAfter_of_no_quote hnone, ← List.singleton_append,
      placeAfter_append, hquote] at hwhole
    cases placeAfter_no_quote (htail hrest) hwhole
  have hkey : '"' ∉ "name".toList ++ (gap' ++ [':'] ++ gap) := by
    have hblanks : ∀ {gap : List Char}, (∀ c ∈ gap, isBlank c = true) → '"' ∉ gap := fun hgap hm =>
      blank_ne_quote (hgap _ hm) rfl
    simp [hblanks hgap, hblanks hgap']
  rcases List.append_eq_append_iff.1 hlead with ⟨more, rfl, hmore⟩ | ⟨more, rfl, rfl⟩
  · exact absurd (hmore ▸ List.mem_append_right _ hpart) hkey
  · exact ⟨front' ++ more ++ ("name".toList ++ (gap' ++ [':'])), gap, tail, by simp,
      ⟨front' ++ more, gap', by simp, hgap'⟩, hgap, htail hrest⟩

end Tokens

/-! ## The clause around a place -/

section Clause

variable {inner tail : List Char}

theorem joinTokens_meet (init : List (List Char)) (p q : List Char) (rest : List (List Char)) :
    joinTokens (init ++ (p ++ q) :: rest) = joinTokens (init ++ [p]) ++ joinTokens (q :: rest) := by
  by_cases hinit : init = []
  · subst hinit
    rw [List.nil_append, List.nil_append, joinTokens_append_head, joinTokens_singleton]
  · rw [joinTokens_append hinit (List.cons_ne_nil _ _), joinTokens_append hinit (List.cons_ne_nil _ _),
      joinTokens_append_head, joinTokens_singleton]
    simp

/-- a clause that goes on over the place ends at the same token, whether the tokens around the place are one or two -/
theorem splitClauseFrom_meet {e : Extent} {init : List (List Char)} {p : List Char}
    (hopen : ∀ a b, a ≠ [] → a ++ b = init ++ [p] → ∀ more, (a.flatten.foldl Extent.next e).isComplete more = false)
    (q : List Char) (rest : List (List Char)) : ∃ clause after, clause ++ after = rest ∧
      splitClauseFrom e (init ++ (p ++ q) :: rest) = (init ++ (p ++ q) :: clause, after) ∧
      splitClauseFrom e (init ++ p :: q :: rest) = (init ++ p :: q :: clause, after) := by
  induction init generalizing e with
  | nil =>
    have hfirst := hopen [p] [] (List.cons_ne_nil _ _) rfl (q :: rest)
    rw [List.flatten_singleton] at hfirst
    rw [List.nil_append, List.nil_append, splitClauseFrom, splitClauseFrom, splitClauseFrom, hfirst, List.foldl_append]
    by_cases hcomplete : (q.foldl Extent.next (p.foldl Extent.next e)).isComplete rest = true
    · exact ⟨[], rest, rfl, by simp [hcomplete], by simp [hcomplete]⟩
    · exact ⟨_, _, splitClauseFrom_append (q.foldl Extent.next (p.foldl Extent.next e)) rest, by simp [hcomplete],
        by simp [hcomplete]⟩
  | cons t init ih =>
    have hfirst := hopen [t] (init ++ [p]) (List.cons_ne_nil _ _) rfl
    rw [List.flatten_singleton] at hfirst
    obtain ⟨clause, after, hrest, htight, hspaced⟩ := ih fun a b ha hab more => by
      have hlater := hopen (t :: a) b (List.cons_ne_nil _ _) (by rw [List.cons_append, hab]; rfl) more
      rwa [List.flatten_cons, List.foldl_append] at hlater
    refine ⟨clause, after, hrest, ?_, ?_⟩
    · rw [List.cons_append, splitClauseFrom, hfirst, htight]
      rfl
    · rw [List.cons_append, splitClauseFrom, hfirst, hspaced]
      rfl

/-- a place between the parentheses of a clause and outside its literals, with the text from the opening parenthesis to
the place -/
structure Inside (inner : List Char) : Prop where
  clean : Clean ('(' :: inner)
  unquoted : (inner.foldl Extent.next .inside).quoted = false
  level : ∀ part, part <+: inner → 1 ≤ (part.foldl Extent.next .inside).depth

/-- without a backslash a literal ends at the next quote for the tokenizer and for the extent of a clause -/
theorem quoted_iff_literal {text : List Char} (h : '\\' ∉ text) {p : Place} {e : Extent} (hp : p ≠ .escape)
    (he : e.quoted = true ↔ p = .literal) : placeAfter p text ≠ .escape ∧
      ((text.foldl Extent.next e).quoted = true ↔ placeAfter p text = .literal) := by
  induction text generalizing p e with
  | nil => exact ⟨hp, he⟩
  | cons c text ih =>
    simp only [List.mem_cons, not_or] at h
    rw [placeAfter_cons, List.foldl_cons]
    cases p with
    | escape => exact absurd rfl hp
    | code =>
      have hquoted : e.quoted = false := by simpa using he
      by_cases hquote : c = '"'
      · exact ih h.2 (by simp [Place.next, hquote]) (by simp [Place.next, Extent.next, hquote, hquoted])
      · have hnext : (e.next c).quoted = false := by
          unfold Extent.next
          split_ifs <;> simp_all
        exact ih h.2 (by simp [Place.next, hquote]) (by simp [Place.next, hquote, hnext])
    | literal =>
      have hquoted : e.quoted = true := he.2 rfl
      by_cases hquote : c = '"'
      · exact ih h.2 (by simp [Place.next, hquote]) (by simp [Place.next, Extent.next, hquote, hquoted])
      · exact ih h.2 (by simp [Place.next, hquote, Ne.symm h.1])
          (by simp [Place.next, Extent.next, hquote, hquoted, Ne.symm h.1])

/-- without backslashes in front of it a place is told by the code of the line and by the parentheses -/
theorem inside_plain (hclean : Clean ('(' :: inner)) (hescape : '\\' ∉ inner)
    (hlevel : ∀ part ∈ inner.inits, 1 ≤ (part.foldl Extent.next .inside).depth) : Inside inner where
  clean := hclean
  unquoted := by
    have hplace : placeAfter .code inner = .code := hclean.place
    have hliteral := (quoted_iff_literal hescape (p := .code) (e := .inside) nofun (by decide)).2
    rw [hplace] at hliteral
    simpa using hliteral
  level part h := hlevel part ((List.mem_inits part inner).2 h)

theorem next_start : Extent.start.next '(' = .inside := by decide

/-- no clause ends in front of such a place -/
theorem Inside.incomplete (h : Inside inner) {a b : List (List Char)} (htokens : tokens? ('(' :: inner) = some (a ++ b))
    (hne : a ≠ []) (more : List (List Char)) : (a.flatten.foldl Extent.next .start).isComplete more = false := by
  obtain ⟨t, a, rfl⟩ := List.exists_cons_of_ne_nil hne
  obtain ⟨x, y, htext, hx, -⟩ := tokens?_init htokens
  cases x with
  | nil => cases hx
  | cons c part =>
    obtain ⟨rfl, rfl⟩ := List.cons.inj htext
    have hdepth := h.level part (List.prefix_append _ _)
    rw [← foldl_next_tokens hx, List.foldl_cons, next_start, Extent.isComplete]
    have hopen : ¬(part.foldl Extent.next .inside).depth ≤ 0 := by omega
    simp [hopen]

/-- the texts on both sides of a place, put together again from their tokens -/
structure Rejoined (inner tail inner' tail' : List Char) : Prop where
  nonempty : tail' ≠ []
  head : tail'.head? = tail.head?
  tight : ∀ c ∈ tail'.head?, isBlank c = false
  last : ('(' :: inner').getLast? = ('(' :: inner).getLast?
  start : inner' = [] ↔ inner = []
  unquoted : (inner'.foldl Extent.next .inside).quoted = (inner.foldl Extent.next .inside).quoted
  keyed : KeyedLast inner' → KeyedLast inner
  colonless : ':' ∉ tail → ':' ∉ tail'

theorem joinTokens_head {t : List Char} (ht : t ≠ []) (rest : List (List Char)) :
    (joinTokens (t :: rest)).head? = t.head? := by
  by_cases hrest : rest = []
  · rw [hrest, joinTokens_singleton]
  · rw [joinTokens_cons hrest, List.head?_append_of_ne_nil _ ht]

theorem joinTokens_getLast {t : List Char} (ht : t ≠ []) (init : List (List Char)) :
    (joinTokens (init ++ [t])).getLast? = t.getLast? := by
  by_cases hinit : init = []
  · rw [hinit, List.nil_append, joinTokens_singleton]
  · rw [joinTokens_append hinit (List.cons_ne_nil _ _), joinTokens_singleton, ← List.singleton_append,
      ← List.append_assoc, List.getLast?_append_of_ne_nil _ ht]

/-- what the tokens in front of a place are joined to -/
theorem rejoined_inner {lead p : List Char} {init : List (List Char)} (htext : '(' :: inner = lead ++ p)
    (hlead : tokens? lead = some init) (htokens : tokens? ('(' :: inner) = some (init ++ [p])) :
    ∃ inner', joinTokens (init ++ [p]) = '(' :: inner' ∧ ('(' :: inner').getLast? = ('(' :: inner).getLast? ∧
      (inner' = [] ↔ inner = []) ∧
      (inner'.foldl Extent.next .inside).quoted = (inner.foldl Extent.next .inside).quoted ∧
      (KeyedLast inner' → KeyedLast inner) := by
  have hp : p ≠ [] := (tokens?_spec htokens p (by simp)).1.1
  have hopen : (joinTokens (init ++ [p])).head? = some '(' := by
    obtain ⟨t, rest, hfirst⟩ :=
      List.exists_cons_of_ne_nil (List.append_ne_nil_of_right_ne_nil init (List.cons_ne_nil p []))
    rw [hfirst] at htokens ⊢
    rw [joinTokens_head (tokens?_spec htokens t List.mem_cons_self).1.1]
    exact (tokens?_open htokens).2
  obtain ⟨inner', hjoin⟩ := List.head?_eq_some_iff.1 hopen
  have hextent := foldl_next_tokens htokens .start
  rw [← foldl_next_joinTokens, hjoin, List.foldl_cons, List.foldl_cons, next_start] at hextent
  refine ⟨inner', hjoin, ?_, ⟨fun hnil => ?_, fun hnil => ?_⟩, by rw [hextent], fun hkeyed => ?_⟩
  · rw [← hjoin, joinTokens_getLast hp, htext, List.getLast?_append_of_ne_nil _ hp]
  · -- one token, and the text is that token
    have hinit : init = [] := by
      by_contra hne
      rw [joinTokens_append hne (List.cons_ne_nil _ _), hnil] at hjoin
      exact absurd (hjoin ▸ List.mem_append_right _ List.mem_cons_self : ' ' ∈ ['(']) (by decide)
    subst hinit
    rw [List.nil_append, joinTokens_singleton, hnil] at hjoin
    rw [hjoin] at htext
    cases lead with
    | nil => exact (List.cons.inj htext).2
    | cons c lead =>
      have hblank := blanks_of_no_tokens hlead c List.mem_cons_self
      rw [← (List.cons.inj htext).1] at hblank
      exact absurd hblank (by decide)
  · subst hnil
    have hsingle : tokens? ['('] = some [['(']] := by decide
    rw [← Option.some.inj (hsingle.symm.trans htokens)] at hjoin
    exact (List.cons.inj hjoin).2.symm
  · refine KeyedLast.of_parenthesis (KeyedLast.of_tokens htokens ?_)
    rw [hjoin]
    exact hkeyed.cons '('

theorem rejoined_tail {q : List Char} {rest clause after : List (List Char)}
    (htokens : tokens? (codeOf tail) = some (q :: rest)) (hq : q <+: codeOf tail) (hrest : clause ++ after = rest) :
    joinTokens (q :: clause) ≠ [] ∧ (joinTokens (q :: clause)).head? = tail.head? ∧
      (∀ c ∈ (joinTokens (q :: clause)).head?, isBlank c = false) ∧ (':' ∉ tail → ':' ∉ joinTokens (q :: clause)) := by
  have htoken : IsToken q := (tokens?_spec htokens q List.mem_cons_self).1
  have hprefix : codeOf tail <+: tail := ⟨_, codeOf_append tail⟩
  have hhead := joinTokens_head htoken.1 clause
  obtain ⟨more, hmore⟩ := hq.trans hprefix
  refine ⟨fun hnil => ?_, ?_, fun c hc => htoken.head c (hhead ▸ hc), fun hcolon hmem => hcolon ?_⟩
  · rw [hnil] at hhead
    exact htoken.1 (List.head?_eq_none_iff.1 hhead.symm)
  · rw [hhead, ← hmore, List.head?_append_of_ne_nil _ htoken.1]
  · rcases mem_joinTokens hmem with hspace | ⟨t, ht, hmem⟩
    · exact absurd hspace (by decide)
    · have ht' : t ∈ q :: rest := by
        rw [← hrest, ← List.cons_append]
        exact List.mem_append_left _ ht
      exact hprefix.subset ((tokens?_spec htokens t ht').2.1.subset hmem)

end Clause

/-! ## The line -/

section Line

variable {front inner tail : List Char}

theorem fieldOfParts_congr (field rawType : List Char) (attributes : List (List Char)) {a b : List Char}
    (h : readClause a = readClause b) :
    fieldOfParts field rawType attributes (some a) = fieldOfParts field rawType attributes (some b) := by
  unfold fieldOfParts
  rw [Option.mapM_some, Option.mapM_some, h]

theorem readClause_marker_space (text : List Char) :
    readClause (relationMarker ++ ' ' :: text) = readClause (relationMarker ++ text) := by
  have hargs : clauseArguments (relationMarker ++ ' ' :: text) = clauseArguments (relationMarker ++ text) := by
    simp only [clauseArguments, isPrefixOf?_relationMarker, Option.getD_some]
    rw [← List.singleton_append, trim_blanks_append text space_blank]
  rw [readClause, readClause, isBalanced_spaced, hargs]

/-- the marker belongs to a clause whether its arguments follow in the same token or in the next -/
theorem splitClauseFrom_marker {t : List Char} (ht : t.head? = some '(') (rest : List (List Char)) : ∃ clause after,
    splitClauseFrom .start (t :: rest) = (t :: clause, after) ∧
    splitClauseFrom .start ((relationMarker ++ t) :: rest) = ((relationMarker ++ t) :: clause, after) ∧
    splitClauseFrom .start (relationMarker :: t :: rest) = (relationMarker :: t :: clause, after) := by
  have hmarker : relationMarker.foldl Extent.next .start = .start := by decide
  have hwaits : Extent.start.isComplete (t :: rest) = false := by
    simp [Extent.isComplete, Extent.start, startsWithParen, ht]
  rw [splitClauseFrom, splitClauseFrom, splitClauseFrom, List.foldl_append, hmarker, hwaits]
  by_cases hcomplete : (t.foldl Extent.next .start).isComplete rest = true
  · exact ⟨[], rest, by simp [hcomplete], by simp [hcomplete], by simp [splitClauseFrom, hcomplete]⟩
  · refine ⟨(splitClauseFrom (t.foldl Extent.next .start) rest).1,
      (splitClauseFrom (t.foldl Extent.next .start) rest).2, ?_⟩
    simp [splitClauseFrom, hcomplete]

/-- the tokens of a clause are those of its arguments with the marker in front, as a part of the first or for itself -/
theorem tokens?_marker {gap text t : List Char} {rest : List (List Char)} (hgap : ∀ c ∈ gap, isBlank c = true)
    (htokens : tokens? text = some (t :: rest)) (hstart : t <+: text) :
    tokens? (relationMarker ++ (gap ++ text)) = some ((relationMarker ++ t) :: rest) ∨
      tokens? (relationMarker ++ (gap ++ text)) = some (relationMarker :: t :: rest) := by
  have htoken : IsToken relationMarker := ⟨by decide, by decide⟩
  by_cases hnil : gap = []
  · left
    obtain ⟨⟨piece, tokens⟩, hread, hpiece⟩ := Option.map_eq_some_iff.1 htokens
    have hfirst : piece ≠ [] := by
      rintro rfl
      obtain ⟨tail, htail, hblank, -⟩ := tokensFrom_split hread
      have ht : IsToken t := (tokens?_spec htokens t List.mem_cons_self).1
      obtain ⟨c, more, rfl⟩ := List.exists_cons_of_ne_nil ht.1
      obtain ⟨after, rfl⟩ := hstart
      have hhead := ht.head c rfl
      rw [hblank c (by rw [← List.nil_append tail, ← htail]; rfl)] at hhead
      cases hhead
    simp only [consToken, if_neg hfirst] at hpiece
    obtain ⟨rfl, rfl⟩ := List.cons.inj hpiece
    rw [hnil, List.nil_append, tokens?, tokensFrom_append htoken.2, hread]
    simp [consToken, hfirst]
  · right
    rw [← List.append_assoc, tokens?_append_blanks_append htoken.place hgap hnil, htoken.tokens?, htokens]
    rfl

/-- **A line with a clause** is read by its field, its type, the attributes in front of the clause, and the tokens from
the opening parenthesis on, whatever blanks stand in front of the parenthesis. -/
theorem readField_arguments (hfront : IsFront front) :
    ∃ field rawType before, ∀ gap text, (∀ c ∈ gap, isBlank c = true) →
      readField (front ++ (relationMarker ++ (gap ++ '(' :: text))) =
        match tokens? ('(' :: codeOf text) with
        | none => .error .unterminatedString
        | some tokens => fieldOfParts field rawType (before ++ (splitClauseFrom .start tokens).2)
            (some (relationMarker ++ joinTokens (splitClauseFrom .start tokens).1)) := by
  obtain ⟨code, lead, field, rawType, before, rfl, hclean, hlead, hne, htokens, hbefore⟩ := hfront
  refine ⟨field, rawType, before, fun gap text hgap => ?_⟩
  have hmarker : Clean relationMarker := ⟨rfl, rfl⟩
  have hparen : Clean ['('] := ⟨rfl, rfl⟩
  have hcode : codeOf (code ++ lead ++ (relationMarker ++ (gap ++ '(' :: text))) =
      code ++ lead ++ (relationMarker ++ (gap ++ '(' :: codeOf text)) := by
    have hopen : codeOf (['('] ++ text) = ['('] ++ codeOf text := by rw [codeOf, splitComment_append hparen (by decide)]
    have hgapped : codeOf (gap ++ (['('] ++ text)) = gap ++ (['('] ++ codeOf text) := by
      rw [Document.codeOf_blanks_append hgap, hopen]
    rw [codeOf, splitComment_append (hclean.append_blanks hlead) (append_blanks_last hlead hne), codeOf,
      splitComment_append hmarker (by decide)]
    exact congrArg (fun text => code ++ lead ++ (relationMarker ++ text)) hgapped
  rw [readField, hcode, tokens?_append_blanks_append hclean.place hlead hne, htokens, Option.bind_some]
  cases harguments : tokens? ('(' :: codeOf text) with
  | none =>
    have hplace : placeAfter .code (relationMarker ++ gap) = .code := by
      rw [placeAfter_append, hmarker.place, placeAfter_code_blanks hgap]
    rw [← List.append_assoc, tokens?_append_none hplace harguments]
    rfl
  | some tokens =>
    cases tokens with
    | nil => exact absurd (blanks_of_no_tokens harguments '(' List.mem_cons_self) (by decide)
    | cons t rest =>
      obtain ⟨hstart, hhead⟩ := tokens?_open harguments
      have hstarts : ∀ piece, startsClause (relationMarker ++ piece) = true := fun piece => by
        rw [startsClause, List.isPrefixOf_iff_prefix]
        exact List.prefix_append _ _
      obtain ⟨clause, others, hclause, hglued, hparted⟩ := splitClauseFrom_marker hhead rest
      rcases tokens?_marker hgap harguments hstart with hread | hread
      · simp only [hread, Option.map_some, List.cons_append, fieldOfTokens_parts,
          splitAttributes_append hbefore (hstarts t), hglued, hclause, joinTokens_append_head]
      · have hmarked : startsClause relationMarker = true := by decide
        simp only [hread, Option.map_some, List.cons_append, fieldOfTokens_parts,
          splitAttributes_append hbefore hmarked, hparted, hclause]
        refine fieldOfParts_congr _ _ _ ?_
        rw [joinTokens_cons (List.cons_ne_nil _ _), readClause_marker_space]

/-- the arguments of a clause up to a place in them stand in the code of the line -/
theorem codeOf_inside (h : Clean ('(' :: inner)) (hmeet : ('(' :: inner).getLast? = some '/' → tail.head? ≠ some '/') :
    '(' :: codeOf (inner ++ tail) = ('(' :: inner) ++ codeOf tail := by
  have hparen : Clean ['('] := ⟨rfl, rfl⟩
  have hwhole : codeOf (('(' :: inner) ++ tail) = ('(' :: inner) ++ codeOf tail := by
    unfold codeOf splitComment
    rw [splitCommentFrom_append h.noComment hmeet, h.place]
  have hopen : codeOf (['('] ++ (inner ++ tail)) = ['('] ++ codeOf (inner ++ tail) := by
    rw [codeOf, splitComment_append hparen (by decide)]
  exact hopen.symm.trans hwhole

/-- **A line around a place.** With blanks at a place of its clause a line is read the same, since it is refused or
there are blanks without them, or a space more stands there once the clause is put together from its tokens. -/
theorem readField_blanks (hfront : IsFront front) (hinside : Inside inner) {gap blanks : List Char}
    (hgap : ∀ c ∈ gap, isBlank c = true) (hblanks : ∀ c ∈ blanks, isBlank c = true) (hne : blanks ≠ [])
    (hmeet : ('(' :: inner).getLast? = some '/' → tail.head? ≠ some '/') :
    (readField (front ++ (relationMarker ++ (gap ++ '(' :: (inner ++ (blanks ++ tail))))) =
        readField (front ++ (relationMarker ++ (gap ++ '(' :: (inner ++ tail)))) ∧
      ((∃ e, readField (front ++ (relationMarker ++ (gap ++ '(' :: (inner ++ tail)))) = .error e) ∨
        EndsBlank ('(' :: inner) ∨ StartsBlank (codeOf tail))) ∨
      ∃ field rawType attributes inner' tail', Rejoined inner tail inner' tail' ∧
        readField (front ++ (relationMarker ++ (gap ++ '(' :: (inner ++ (blanks ++ tail))))) =
          fieldOfParts field rawType attributes (some (relationMarker ++ '(' :: (inner' ++ ' ' :: tail'))) ∧
        readField (front ++ (relationMarker ++ (gap ++ '(' :: (inner ++ tail)))) =
          fieldOfParts field rawType attributes (some (relationMarker ++ '(' :: (inner' ++ tail'))) := by
  obtain ⟨field, rawType, before, hread⟩ := readField_arguments hfront
  have hspaced : '(' :: codeOf (inner ++ (blanks ++ tail)) = ('(' :: inner) ++ blanks ++ codeOf tail := by
    rw [codeOf_inside hinside.clean, Document.codeOf_blanks_append hblanks, List.append_assoc]
    obtain ⟨c, rest, rfl⟩ := List.exists_cons_of_ne_nil hne
    exact fun _ hslash => absurd (hblanks '/' (Option.some.inj hslash ▸ List.mem_cons_self)) (by decide)
  obtain ⟨xs, hxs⟩ := tokens?_isSome hinside.clean.place
  rw [hread gap _ hgap, hread gap _ hgap, hspaced, codeOf_inside hinside.clean hmeet,
    tokens?_append_blanks_append hinside.clean.place hblanks hne, hxs, Option.bind_some]
  cases hys : tokens? (codeOf tail) with
  | none =>
    left
    rw [tokens?_append_none hinside.clean.place hys]
    exact ⟨rfl, Or.inl ⟨_, rfl⟩⟩
  | some ys =>
    rcases tokens?_meet hxs hys with ⟨hparted, hwhole⟩ | ⟨lead, init, p, q, rest, htext, hlead, rfl, rfl, hq, hwhole⟩
    · left
      rw [hwhole]
      exact ⟨rfl, Or.inr hparted⟩
    · right
      obtain ⟨clause, after, hrest, htight, hparted⟩ :=
        splitClauseFrom_meet (fun a b ha hab => hinside.incomplete (hab.symm ▸ hxs) ha) q rest
      obtain ⟨inner', hjoin, hlast, hstart, hunquoted, hkeyed⟩ := rejoined_inner htext hlead hxs
      obtain ⟨hnonempty, hhead, hblank, hcolon⟩ := rejoined_tail hys hq hrest
      refine ⟨field, rawType, before ++ after, inner', joinTokens (q :: clause),
        ⟨hnonempty, hhead, hblank, hlast, hstart, hunquoted, hkeyed, hcolon⟩, ?_, ?_⟩
      · have hparts : init ++ [p] ++ q :: rest = init ++ p :: q :: rest := by simp
        have htexts : init ++ p :: q :: clause = (init ++ [p]) ++ q :: clause := by simp
        simp only [Option.map_some, hparts, hparted, htexts,
          joinTokens_append (List.append_ne_nil_of_right_ne_nil init (List.cons_ne_nil p []))
            (List.cons_ne_nil q clause), hjoin, List.cons_append]
      · rw [hwhole]
        simp only [htight, joinTokens_meet, hjoin, List.cons_append]

end Line

/-! ## Lines that differ in blanks -/

/-- blanks put into a line in front of the parenthesis of its clause, or between the parentheses and outside literals at
a place next to a mark. The place is not in front of a name without key, and the last literal in front of it does not
end with the key of the name, or the search takes what follows for the name. -/
inductive Spaced : List Char → List Char → Prop
  | outside {front gap tail : List Char} (hfront : IsFront front) (hgap : ∀ c ∈ gap, isBlank c = true) :
      Spaced (front ++ (relationMarker ++ '(' :: tail)) (front ++ (relationMarker ++ (gap ++ '(' :: tail)))
  | inside {front gap inner blanks tail : List Char} (hfront : IsFront front) (hgap : ∀ c ∈ gap, isBlank c = true)
      (hblanks : ∀ c ∈ blanks, isBlank c = true) (hinside : Inside inner) (hat : AtMark inner tail)
      (hled : inner = [] → tail.head? ≠ some '"') (hkeyed : ¬KeyedLast inner) :
      Spaced (front ++ (relationMarker ++ (gap ++ '(' :: (inner ++ tail))))
        (front ++ (relationMarker ++ (gap ++ '(' :: (inner ++ (blanks ++ tail)))))

/-- lines that differ in such blanks, put in or taken out at any number of places -/
def Respaced : List Char → List Char → Prop := Relation.EqvGen Spaced

def FieldLine.loosened (l : FieldLine) : FieldLine := l.mapClause Clause.loosened

/-- no text of a list or an action of the clause holds a mark -/
def FieldLine.IsPlain (l : FieldLine) : Prop := ∀ c ∈ l.clause, c.IsPlain

instance (l : FieldLine) : Decidable l.IsPlain := inferInstanceAs (Decidable (∀ c ∈ l.clause, c.IsPlain))

section Spaced

variable {line line' front inner tail : List Char}

theorem FieldLine.IsPlain.eq_of_loosened {l l' : FieldLine} (h : l.IsPlain) (hsame : l'.loosened = l.loosened) :
    l' = l := by
  obtain ⟨field, clause, others⟩ := l
  obtain ⟨field', clause', others'⟩ := l'
  simp only [FieldLine.loosened, FieldLine.mapClause, FieldLine.mk.injEq] at hsame
  obtain ⟨rfl, hclause, rfl⟩ := hsame
  cases clause with
  | none => rw [Option.map_eq_none_iff.1 hclause]
  | some c =>
    obtain ⟨c', rfl, hc⟩ := Option.map_eq_some_iff.1 hclause
    rw [Clause.IsPlain.eq_of_loosened (h c rfl) hc]

/-- a literal between the opening parenthesis and the place is closed in front of the place -/
theorem quote_closed (h : (inner.foldl Extent.next .inside).quoted = false) {part : List Char}
    (hinner : inner = '"' :: part) : '"' ∈ part := by
  by_contra hopen
  have hquoted : Extent.inside.next '"' = ⟨1, true, true⟩ := by decide
  rw [hinner, List.foldl_cons, hquoted, foldl_next_quoted hopen rfl] at h
  cases h

theorem AtMark.no_slashes (h : AtMark inner tail) (hlast : inner.getLast? = some '/') : tail.head? ≠ some '/' := by
  intro hhead
  rcases h with h | h
  · exact absurd (h '/' hlast) (by decide)
  · exact absurd (h '/' hhead) (by decide)

/-- **Blanks at one place** are irrelevant. -/
theorem Spaced.readField (h : Spaced line line') :
    (Line.readField line).map FieldLine.loosened = (Line.readField line').map FieldLine.loosened := by
  cases h with
  | @outside front gap tail hfront hgap =>
    obtain ⟨field, rawType, before, hread⟩ := readField_arguments hfront
    have htight := hread [] tail (List.forall_mem_nil _)
    rw [List.nil_append] at htight
    rw [hread gap tail hgap, htight]
  | @inside front gap inner blanks tail hfront hgap hblanks hinside hat hled hkeyed =>
    by_cases hne : blanks = []
    · rw [hne, List.nil_append]
    rcases readField_blanks hfront hinside hgap hblanks hne hat.parenthesis.no_slashes with
      ⟨hsame, -⟩ | ⟨field, rawType, attributes, inner', tail', hparts, hspaced, htight⟩
    · rw [hsame]
    · have hmark : AtMark ('(' :: inner') tail' := by
        rw [AtMark, hparts.last, hparts.head]
        exact hat.parenthesis
      have hclause := readClause_spaced hparts.nonempty hparts.tight
        (hmark.part (List.suffix_cons '(' inner') List.prefix_rfl)
        (fun hnil => by rw [hparts.head]; exact hled (hparts.start.1 hnil))
        (fun part hpart => quote_closed (hparts.unquoted.trans hinside.unquoted) hpart)
        fun hk => hkeyed (hparts.keyed hk)
      rw [hspaced, htight]
      exact (fieldOfParts_mapClause Clause.loosened field rawType attributes hclause).symm

theorem Respaced.readField (h : Respaced line line') :
    (Line.readField line).map FieldLine.loosened = (Line.readField line').map FieldLine.loosened := by
  induction h with
  | rel line line' h => exact h.readField
  | refl line => rfl
  | symm line line' _ ih => exact ih.symm
  | trans a b c _ _ ih ih' => exact ih.trans ih'

theorem Respaced.readField_plain (h : Respaced line line') {l : FieldLine} (hread : Line.readField line = .ok l)
    (hplain : l.IsPlain) : Line.readField line' = .ok l := by
  have hsame := h.readField
  rw [hread] at hsame
  cases hread' : Line.readField line' with
  | error e => rw [hread'] at hsame; cases hsame
  | ok l' =>
    rw [hread'] at hsame
    rw [hplain.eq_of_loosened (Except.ok.inj hsame).symm]

/-- behind the opening parenthesis -/
theorem inside_nil : Inside [] where
  clean := ⟨rfl, rfl⟩
  unquoted := rfl
  level part h := by rw [List.prefix_nil.1 h]; decide

theorem codeOf_quote (tail : List Char) : (codeOf ('"' :: tail)).head? = some '"' := by
  rw [codeOf, splitComment, splitCommentFrom_cons, if_neg]
  · rfl
  · rintro ⟨-, hslash⟩
    exact absurd (List.cons_prefix_cons.1 hslash).1 (by decide)

theorem readClause_of_fieldOfParts {field rawType text : List Char} {attributes : List (List Char)} {l : FieldLine}
    (h : fieldOfParts field rawType attributes (some text) = .ok l) {c : Clause} (hc : l.clause = some c) :
    readClause text = .ok c := by
  by_cases hfield : isIdentifier field = true
  · rw [fieldOfParts_text hfield] at h
    cases hread : readClause text with
    | error e => rw [hread] at h; cases h
    | ok clause =>
      rw [hread] at h
      rw [← Except.ok.inj h] at hc
      simp only [fieldLineOf] at hc
      split at hc
      · rw [Option.some.inj hc]
      · cases hc
  · rw [fieldOfParts, if_neg hfield] at h
    cases h

/-- **Blanks in front of a name without key** hide the name, and nothing else. -/
theorem readField_unled (hfront : IsFront front) {gap blanks : List Char} (hgap : ∀ c ∈ gap, isBlank c = true)
    (hblanks : ∀ c ∈ blanks, isBlank c = true) (hne : blanks ≠ []) (tail : List Char) :
    (Line.readField (front ++ (relationMarker ++ (gap ++ '(' :: (blanks ++ '"' :: tail))))).map FieldLine.unnamed =
        (Line.readField (front ++ (relationMarker ++ (gap ++ '(' :: '"' :: tail)))).map FieldLine.unnamed ∧
      ∀ l c, Line.readField (front ++ (relationMarker ++ (gap ++ '(' :: (blanks ++ '"' :: tail)))) = .ok l →
        l.clause = some c → ':' ∉ tail → c.name = none := by
  have hslash : ['('].getLast? = some '/' → ('"' :: tail).head? ≠ some '/' := fun hlast => absurd hlast (by decide)
  have hcases := readField_blanks hfront inside_nil hgap hblanks hne hslash
  simp only [List.nil_append] at hcases
  rcases hcases with ⟨hsame, hwhy⟩ | ⟨field, rawType, attributes, inner', tail', hparts, hspaced, htight⟩
  · refine ⟨by rw [hsame], fun l c hread => ?_⟩
    rcases hwhy with ⟨e, herror⟩ | hblank | hblank
    · rw [hsame, herror] at hread
      cases hread
    · exact absurd (hblank '(' rfl) (by decide)
    · exact absurd (hblank '"' (codeOf_quote tail)) (by decide)
  · obtain rfl := hparts.start.2 rfl
    obtain ⟨rest, rfl⟩ := List.head?_eq_some_iff.1 hparts.head
    obtain ⟨hunnamed, hname⟩ := readClause_unled rest
    rw [List.nil_append] at hspaced htight
    refine ⟨?_, fun l c hread hc hcolon => ?_⟩
    · rw [hspaced, htight]
      exact fieldOfParts_mapClause Clause.unnamed field rawType attributes hunnamed
    · rw [hspaced] at hread
      refine hname c (readClause_of_fieldOfParts hread hc) fun hmem => ?_
      exact hparts.colonless (by simp [hcolon]) (List.mem_cons_of_mem _ hmem)

end Spaced

/-- **Spacing inside a clause** is irrelevant, but for a blank in front of a name without key. Lines that differ in
blanks in front of the parenthesis of the clause and next to marks between its parentheses are refused for the same
reason or read the same, blanks aside in a list entry or an action with a mark in it. A blank between the opening
parenthesis and a quoted name hides the name: everything else is read the same, and without a colon behind it the clause
has no name. -/
theorem readField_respaced {line line' : List Char} (h : Respaced line line') :
    ((readField line).map FieldLine.loosened = (readField line').map FieldLine.loosened ∧
      ∀ l, readField line = .ok l → l.IsPlain → readField line' = .ok l) ∧
    ∀ front gap blanks tail, IsFront front →
      (∀ c ∈ gap, isBlank c = true) → (∀ c ∈ blanks, isBlank c = true) → blanks ≠ [] →
      (readField (front ++ (relationMarker ++ (gap ++ '(' :: (blanks ++ '"' :: tail))))).map FieldLine.unnamed =
          (readField (front ++ (relationMarker ++ (gap ++ '(' :: '"' :: tail)))).map FieldLine.unnamed ∧
        ∀ l c, readField (front ++ (relationMarker ++ (gap ++ '(' :: (blanks ++ '"' :: tail)))) = .ok l →
          l.clause = some c → ':' ∉ tail → c.name = none :=
  ⟨⟨h.readField, fun _ => h.readField_plain⟩,
    fun _ _ _ tail hfront hgap hblanks hne => readField_unled hfront hgap hblanks hne tail⟩

def tightLine : String := "by User @relation(\"By\",fields:[userId])"

def spacedLine : String := "by User @relation (\"By\", fields:[userId])"

/-- blanks around the parenthesis and the comma change nothing, a blank in front of the name hides it -/
theorem readField_respaced_by :
    (∃ l, readField tightLine.toList = .ok l ∧ l.IsPlain ∧ readField spacedLine.toList = .ok l) ∧
    ∀ l c, readField "by User @relation( \"By\")".toList = .ok l → l.clause = some c → c.name = none := by
  have hfront : IsFront "by User ".toList :=
    ⟨"by User".toList, [' '], "by".toList, "User".toList, [], by decide, ⟨rfl, rfl⟩, space_blank, List.cons_ne_nil _ _,
      by decide, nofun⟩
  have hrespaced : Respaced tightLine.toList spacedLine.toList := by
    have htight : tightLine.toList =
        "by User ".toList ++ (relationMarker ++ '(' :: ("\"By\",".toList ++ "fields:[userId])".toList)) := by
      decide +kernel
    have hspaced : spacedLine.toList = "by User ".toList ++ (relationMarker ++ ([' '] ++ '(' :: ("\"By\",".toList ++
        ([' '] ++ "fields:[userId])".toList)))) := by decide +kernel
    have hplace : Inside "\"By\",".toList := inside_plain ⟨rfl, rfl⟩ (by decide) (by decide)
    have hkeyed : ¬KeyedLast "\"By\",".toList := fun h => absurd (h.mem_key 'm' (by decide)) (by decide)
    rw [htight, hspaced]
    exact .trans _ _ _ (.rel _ _ (.outside hfront space_blank))
      (.rel _ _
        (.inside hfront space_blank space_blank hplace (.of_getLast? (c := ',') rfl (by decide) _) (by decide) hkeyed))
  refine ⟨?_, fun l c hread hc => ?_⟩
  · have hplain : ((readField tightLine.toList).toOption.any fun l => decide l.IsPlain) = true := by decide +kernel
    obtain ⟨l, hl, hp⟩ := (Option.any_eq_true _ _).1 hplain
    have hread : readField tightLine.toList = .ok l := by
      cases hresult : readField tightLine.toList with
      | error e => rw [hresult] at hl; cases hl
      | ok l' => rw [hresult] at hl; rw [Option.some.inj hl]
    exact ⟨l, hread, of_decide_eq_true hp, (readField_respaced hrespaced).1.2 l hread (of_decide_eq_true hp)⟩
  · have hline : "by User @relation( \"By\")".toList =
        "by User ".toList ++ (relationMarker ++ ([] ++ '(' :: ([' '] ++ '"' :: "By\")".toList))) := by decide +kernel
    rw [hline] at hread
    exact ((readField_respaced hrespaced).2 _ [] [' '] "By\")".toList hfront (List.forall_mem_nil _) space_blank
      (List.cons_ne_nil _ _)).2 l c hread hc (by decide)

/-- A blank behind the opening parenthesis hides the name of the clause. -/
theorem readField_hidesName :
    (readField "author User @relation(\"Authored\")".toList).map (·.clause) =
      .ok (some ⟨some "Authored", [], [], ⟨none, none⟩⟩) ∧
    (readField "author User @relation( \"Authored\")".toList).map (·.clause) =
      .ok (some ⟨none, [], [], ⟨none, none⟩⟩) := by
  decide +kernel

end EntityScaffold.Line

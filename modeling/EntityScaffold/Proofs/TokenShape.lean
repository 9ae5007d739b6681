import EntityScaffold.Proofs.LineByLine

/-!
The shape of a line is told by its tokens. Two notions of a word meet in a line: its shape is read off the words
between blanks, its field off the tokens, which keep literals whole. A token stands in the text behind blanks and is
followed by a blank or by nothing (`tokens?_cons`), so the tokens of a text tell its first two words
(`firstWord_of_tokens`, `secondWord_of_tokens`) and the character it ends in (`getLast?_of_tokens`). Main statement:
`shape_of_tokens`, lines with the same tokens have the same shape as soon as both are indented or neither is.
-/

namespace EntityScaffold.Line

open Text

/-! ## The first token -/

/-- the text starts with a blank or is empty -/
def StartsBlank (text : List Char) : Prop := ∀ c, text.head? = some c → isBlank c = true

/-- the piece that is read first stands at the start of the text, the tokens are those of what follows it -/
theorem tokensFrom_split {p : Place} {text piece : List Char} {tokens : List (List Char)}
    (h : tokensFrom p text = some (piece, tokens)) :
    ∃ tail, text = piece ++ tail ∧ StartsBlank tail ∧ tokens? tail = some tokens := by
  induction text generalizing p piece tokens with
  | nil =>
    simp only [tokensFrom] at h
    split at h
    · cases h; exact ⟨[], rfl, by simp [StartsBlank], rfl⟩
    · cases h
  | cons c text ih =>
    by_cases hc : p = .code ∧ isBlank c = true
    · rw [hc.1] at h
      have hblank : StartsBlank (c :: text) := by
        intro d hd
        cases hd
        exact hc.2
      have hread : tokens? (c :: text) = some (consToken piece tokens) := by rw [tokens?, h]; rfl
      rw [tokensFrom_blank hc.2] at h
      obtain ⟨_, -, h⟩ := Option.map_eq_some_iff.1 h
      cases h
      exact ⟨c :: text, rfl, hblank, hread⟩
    · rw [tokensFrom_char (by simpa using hc)] at h
      obtain ⟨⟨piece', tokens'⟩, hr, h⟩ := Option.map_eq_some_iff.1 h
      cases h
      obtain ⟨tail, rfl, hblank, hread⟩ := ih hr
      exact ⟨tail, rfl, hblank, hread⟩

theorem trimStart_of_no_tokens {text : List Char} (h : tokens? text = some []) : trimStart text = [] := by
  obtain ⟨lead, hlead, hblanks⟩ := trimStart_append text
  rw [hlead, tokens?_blanks_append hblanks] at h
  obtain ⟨⟨piece, tokens⟩, hr, h⟩ := Option.map_eq_some_iff.1 h
  obtain ⟨tail, htail, hblank, -⟩ := tokensFrom_split hr
  have hpiece : piece = [] := by
    by_contra hne
    simp only [consToken, if_neg hne] at h
    cases h
  rw [hpiece, List.nil_append] at htail
  -- what is left starts with no blank, and with nothing but a blank
  cases htrim : trimStart text with
  | nil => rfl
  | cons c rest =>
    rw [← htail, htrim] at hblank
    have hc := trimStart_head text c (by rw [htrim]; rfl)
    rw [hblank c rfl] at hc
    cases hc

theorem blanks_of_no_tokens {text : List Char} (h : tokens? text = some []) : ∀ c ∈ text, isBlank c = true := by
  obtain ⟨lead, htext, hlead⟩ := trimStart_append text
  rw [trimStart_of_no_tokens h, List.append_nil] at htext
  exact htext ▸ hlead

theorem tokens?_blank {c : Char} (h : isBlank c = true) (text : List Char) : tokens? (c :: text) = tokens? text :=
  tokens?_blanks_append (List.forall_mem_singleton.2 h) text

/-- **A token stands between blanks.** The first token of a text stands behind blanks; then the text ends or goes on
with a blank, and what follows has the other tokens. -/
theorem tokens?_cons {text t : List Char} {rest : List (List Char)} (h : tokens? text = some (t :: rest)) :
    ∃ lead tail, text = lead ++ (t ++ tail) ∧ (∀ c ∈ lead, isBlank c = true) ∧ StartsBlank tail ∧
      tokens? tail = some rest := by
  obtain ⟨lead, hlead, hblanks⟩ := trimStart_append text
  have hstart : tokens? (trimStart text) = some (t :: rest) := by rwa [← tokens?_blanks_append hblanks, ← hlead]
  obtain ⟨⟨piece, tokens⟩, hr, htokens⟩ := Option.map_eq_some_iff.1 hstart
  obtain ⟨tail, htail, hblank, hread⟩ := tokensFrom_split hr
  by_cases hpiece : piece = []
  · rw [hpiece, List.nil_append] at htail
    cases htrim : trimStart text with
    | nil => rw [htrim] at hstart; cases hstart
    | cons c more =>
      rw [← htail, htrim] at hblank
      have hc := trimStart_head text c (by rw [htrim]; rfl)
      rw [hblank c rfl] at hc
      cases hc
  · simp only [consToken, if_neg hpiece] at htokens
    cases htokens
    exact ⟨lead, tail, by rw [← htail, ← hlead], hblanks, hblank, hread⟩

theorem trimStart_token_append {t : List Char} (ht : IsToken t) (tail : List Char) :
    trimStart (t ++ tail) = t ++ tail := by
  refine trimStart_eq_self fun c hc => ht.head c ?_
  rwa [List.head?_append_of_ne_nil _ ht.1] at hc

theorem tokens?_cons_start {text t : List Char} {rest : List (List Char)} (h : tokens? text = some (t :: rest))
    (hstart : trimStart text = text) :
    ∃ tail, text = t ++ tail ∧ StartsBlank tail ∧ tokens? tail = some rest := by
  obtain ⟨lead, tail, htext, hlead, htail, hrest⟩ := tokens?_cons h
  have ht : IsToken t := (tokens?_spec h t List.mem_cons_self).1
  refine ⟨tail, ?_, htail, hrest⟩
  rw [← hstart, htext, trimStart_blanks_append _ hlead, trimStart_token_append ht]

/-- blanks are all that stands around a single token -/
theorem trim_of_token {text t : List Char} (h : tokens? text = some [t]) : trim text = t := by
  obtain ⟨lead, tail, htext, hlead, -, hrest⟩ := tokens?_cons h
  have ht : IsToken t := (tokens?_spec h t List.mem_cons_self).1
  obtain ⟨blanks, htail, hblanks⟩ := trimStart_append tail
  rw [trimStart_of_no_tokens hrest, List.append_nil] at htail
  rw [htext, trim_blanks_append _ hlead, htail, trim_append_blanks _ hblanks, trim_eq_self ht.head ht.tight]

/-! ## Words and the last character -/

section Words

variable {t tail : List Char}

theorem dropWhile_of_startsBlank (h : StartsBlank tail) : tail.dropWhile (!isBlank ·) = tail := by
  cases tail with
  | nil => rfl
  | cons c tail => simp [h c rfl]

theorem takeWhile_of_startsBlank (h : StartsBlank tail) : tail.takeWhile (!isBlank ·) = [] := by
  cases tail with
  | nil => rfl
  | cons c tail => simp [h c rfl]

/-- the first word of a text ends where its first token does, or before -/
theorem firstWord_append_tail (h : StartsBlank tail) : firstWord (t ++ tail) = firstWord t := by
  unfold firstWord
  rw [List.takeWhile_append, takeWhile_of_startsBlank h, List.append_nil]
  split
  · next hlength => exact ((List.takeWhile_prefix _).eq_of_length hlength).symm
  · rfl

theorem firstWord_of_tokens {text : List Char} {tokens : List (List Char)} (h : tokens? text = some tokens) :
    firstWord (trimStart text) = firstWord (tokens.headD []) := by
  cases tokens with
  | nil => rw [trimStart_of_no_tokens h]; rfl
  | cons t rest =>
    obtain ⟨lead, tail, rfl, hlead, htail, -⟩ := tokens?_cons h
    have ht : IsToken t := (tokens?_spec h t List.mem_cons_self).1
    rw [trimStart_blanks_append _ hlead, trimStart_token_append ht, firstWord_append_tail htail]
    rfl

/-- the second word of tokens: inside the first token if a literal of it holds a blank, else in the next token -/
def secondWord : List (List Char) → List Char
  | [] => []
  | t :: rest => if t.any isBlank then firstWord (afterFirstWord t) else firstWord (rest.headD [])

theorem secondWord_of_tokens {text t : List Char} {rest : List (List Char)} (h : tokens? text = some (t :: rest))
    (hstart : trimStart text = text) : firstWord (afterFirstWord text) = secondWord (t :: rest) := by
  obtain ⟨tail, rfl, htail, hrest⟩ := tokens?_cons_start h hstart
  have ht : IsToken t := (tokens?_spec h t List.mem_cons_self).1
  rw [afterFirstWord, secondWord]
  by_cases hany : t.any isBlank = true
  · -- a literal of the token holds a blank, and more of the token follows it
    have hne : t.dropWhile (!isBlank ·) ≠ [] := by
      intro hnil
      obtain ⟨c, hc, hblank⟩ := List.any_eq_true.1 hany
      have := List.dropWhile_eq_nil_iff.1 hnil c hc
      simp [hblank] at this
    have hmore : trimStart (t.dropWhile (!isBlank ·)) ≠ [] := by
      intro hnil
      have hend : EndsTight (t.dropWhile (!isBlank ·)) := by
        have htight := ht.tight
        rw [← List.takeWhile_append_dropWhile (p := (!isBlank ·)) (l := t)] at htight
        exact htight.suffix
      obtain ⟨blanks, hblanks, hall⟩ := trimStart_append (t.dropWhile (!isBlank ·))
      rw [hnil, List.append_nil] at hblanks
      have hlast := hend _ (List.getLast?_eq_getLast_of_ne_nil hne)
      rw [hall _ (hblanks ▸ List.getLast_mem hne)] at hlast
      cases hlast
    have hdrop : trimStart ((t ++ tail).dropWhile (!isBlank ·)) = trimStart (t.dropWhile (!isBlank ·)) ++ tail := by
      rw [List.dropWhile_append, if_neg (by simpa using hne), trimStart, List.dropWhile_append,
        if_neg (by simpa [trimStart] using hmore)]
      rfl
    rw [hdrop, firstWord_append_tail htail, if_pos hany]
    rfl
  · have hnone : ∀ c ∈ t, (!isBlank c) = true := by simpa using hany
    rw [List.dropWhile_append_of_pos hnone, dropWhile_of_startsBlank htail, firstWord_of_tokens hrest, if_neg hany]

end Words

theorem trimEnd_append_of_ne_nil (a : List Char) {b : List Char} (h : trimEnd b ≠ []) :
    trimEnd (a ++ b) = a ++ trimEnd b := by
  obtain ⟨tail, hb, hblanks⟩ := trimEnd_append b
  nth_rewrite 1 [hb]
  rw [← List.append_assoc, trimEnd_append_blanks _ hblanks, trimEnd_eq_self ((trimEnd_tight b).append h)]

/-- a text ends, blanks aside, in the last character of its last token -/
theorem getLast?_of_tokens {text t : List Char} {rest : List (List Char)} (h : tokens? text = some (t :: rest)) :
    (trimEnd text).getLast? = ((t :: rest).getLast (List.cons_ne_nil _ _)).getLast? := by
  induction rest generalizing text t with
  | nil =>
    obtain ⟨lead, tail, rfl, -, -, hrest⟩ := tokens?_cons h
    have ht : IsToken t := (tokens?_spec h t List.mem_cons_self).1
    have hblanks : ∀ c ∈ tail, isBlank c = true := by
      obtain ⟨blanks, htail, hall⟩ := trimStart_append tail
      rw [trimStart_of_no_tokens hrest, List.append_nil] at htail
      exact htail ▸ hall
    rw [← List.append_assoc, trimEnd_append_blanks _ hblanks, trimEnd_eq_self (ht.tight.append ht.1),
      List.getLast?_append_of_ne_nil _ ht.1]
    rfl
  | cons next rest ih =>
    obtain ⟨lead, tail, rfl, -, -, hrest⟩ := tokens?_cons h
    have htail := ih hrest
    have hne : trimEnd tail ≠ [] := by
      intro hnil
      rw [hnil] at htail
      have hlast := List.getLast_mem (List.cons_ne_nil next rest)
      exact (tokens?_spec hrest _ hlast).1.1 (List.getLast?_eq_none_iff.1 htail.symm)
    rw [← List.append_assoc, trimEnd_append_of_ne_nil _ hne, List.getLast?_append_of_ne_nil _ hne, htail,
      List.getLast_cons (List.cons_ne_nil next rest)]

/-! ## Trimmed code -/

theorem tokens?_trim {text : List Char} {tokens : List (List Char)} (h : tokens? text = some tokens) :
    tokens? (trim text) = some tokens := by
  obtain ⟨lead, tail, htext, hlead, htail⟩ := trim_append text
  have hplace : placeAfter .code (trim text) = .code := by
    have hwhole := placeAfter_of_tokens? h
    rw [htext, placeAfter_append, placeAfter_append, placeAfter_code_blanks hlead] at hwhole
    exact placeAfter_eq_code_of_blanks htail hwhole
  rw [htext, List.append_assoc, tokens?_blanks_append hlead, tokens?_append_blanks hplace htail] at h
  exact h

end EntityScaffold.Line

namespace EntityScaffold.Document

open Text Line

theorem codeOf_blanks_append {lead : List Char} (h : ∀ c ∈ lead, isBlank c = true) (line : List Char) :
    codeOf (lead ++ line) = lead ++ codeOf line :=
  congrArg (fun split => split.1) (splitComment_append (b := line) (clean_blanks h) (blanks_last h))

/-- blanks at the end of a line stand in its code or in its comment -/
theorem trimEnd_codeOf_trimEnd (line : List Char) : trimEnd (codeOf (trimEnd line)) = trimEnd (codeOf line) := by
  have hcomment := commentOf?_trimEnd line
  have hline := codeOf_append line
  have htrimmed := codeOf_append (trimEnd line)
  cases hc : commentOf? line with
  | none =>
    rw [hc, Option.map_none] at hcomment
    rw [hcomment, Option.getD_none, List.append_nil] at htrimmed
    rw [hc, Option.getD_none, List.append_nil] at hline
    rw [htrimmed, hline, trimEnd_eq_self (trimEnd_tight line)]
  | some comment =>
    obtain ⟨-, -, rest, rfl⟩ := commentOf?_eq_some hc
    rw [hc, Option.map_some, trimEnd_comment] at hcomment
    rw [hc, Option.getD_some] at hline
    rw [hcomment, Option.getD_some] at htrimmed
    have hne : trimEnd ('/' :: '/' :: rest) ≠ [] := by rw [trimEnd_comment]; exact List.cons_ne_nil _ _
    have hkept : trimEnd line = codeOf line ++ '/' :: '/' :: trimEnd rest := by
      nth_rewrite 1 [← hline]
      rw [trimEnd_append_of_ne_nil _ hne, trimEnd_comment]
    rw [List.append_cancel_right (htrimmed.trans hkept)]

/-- the code that tells the shape of a line is its code between the blanks -/
theorem trimEnd_codeOf_trim (line : List Char) : trimEnd (codeOf (trim line)) = trim (codeOf line) := by
  obtain ⟨lead, hlead, hblanks⟩ := trimStart_append line
  have hcode : codeOf line = lead ++ codeOf (trimStart line) := by
    nth_rewrite 1 [hlead]
    exact codeOf_blanks_append hblanks _
  have hstart : trimStart (codeOf (trimStart line)) = codeOf (trimStart line) := by
    refine trimStart_eq_self fun c hc => trimStart_head line c ?_
    rw [← codeOf_append (trimStart line), List.head?_append, hc]
    rfl
  rw [trim, trimEnd_codeOf_trimEnd, hcode, trim_blanks_append _ hblanks, trim, hstart]

/-! ## The shape of a line -/

/-- the shape that code between blanks has in a line that is indented or not -/
def codeShape (indented : Bool) (code : List Char) : Shape :=
  if ['@'].isPrefixOf code then .directive
  else if code = ['}'] then .closing
  else if indented then .field
  else
    match opening? code with
    | some (keyword, name) => .opening keyword name
    | none => .other

theorem shape_of_codeOf {line : List Char} (h : trim (codeOf line) ≠ []) :
    shape line = codeShape (isIndented line) (trim (codeOf line)) := by
  have hcode := trimEnd_codeOf_trim line
  obtain ⟨c, rest, hc⟩ := List.exists_cons_of_ne_nil h
  -- the line starts as its code does, and the code starts with no comment
  obtain ⟨more, hline⟩ : ∃ more, trim line = c :: more := by
    obtain ⟨tail, htail, -⟩ := trimEnd_append (codeOf (trim line))
    have hwhole := codeOf_append (trim line)
    rw [htail, hcode, hc] at hwhole
    exact ⟨_, hwhole.symm⟩
  have hslash : ['/', '/'].isPrefixOf (trim line) = false := by
    rw [Bool.eq_false_iff, ne_eq, List.isPrefixOf_iff_prefix]
    rintro ⟨comment, hcomment⟩
    rw [← hcomment, codeOf, List.cons_append, List.cons_append, List.nil_append, comment_split] at hcode
    rw [← hcode] at h
    exact h rfl
  have hat : ['@'].isPrefixOf (trim line) = ['@'].isPrefixOf (trim (codeOf line)) := by
    rw [hline, hc]
    simp [List.isPrefixOf]
  unfold shape codeShape
  dsimp only
  rw [hcode, hslash, hat, if_neg (by rw [hline]; exact List.cons_ne_nil _ _)]
  rfl

theorem shape_of_no_code {line : List Char} (h : trim (codeOf line) = []) :
    shape line = .blank ∨ shape line = .comment := by
  have hcode := trimEnd_codeOf_trim line
  rw [h] at hcode
  by_cases hblank : trim line = []
  · left
    simp [shape, hblank]
  · right
    have hcomment : ['/', '/'].isPrefixOf (trim line) = true := by
      cases hc : commentOf? (trim line) with
      | none =>
        have hwhole := codeOf_append (trim line)
        rw [hc, Option.getD_none, List.append_nil] at hwhole
        rw [hwhole, trimEnd_eq_self (trim_tight line)] at hcode
        exact absurd hcode hblank
      | some comment =>
        obtain ⟨hsplit, -, rest, rfl⟩ := commentOf?_eq_some hc
        -- the code before the comment is empty, since a trimmed line starts with no blank
        have hnil : codeOf (trim line) = [] := by
          cases hfirst : codeOf (trim line) with
          | nil => rfl
          | cons c more =>
            have hc' := trim_head line c (by rw [hsplit, hfirst]; rfl)
            rw [hfirst, trimEnd_cons hc'] at hcode
            cases hcode
        rw [hsplit, hnil]
        rfl
    simp [shape, hblank, hcomment]

theorem opening?_congr {a b : List Char} (hfirst : firstWord a = firstWord b)
    (hsecond : firstWord (afterFirstWord a) = firstWord (afterFirstWord b)) (hlast : a.getLast? = b.getLast?) :
    opening? a = opening? b := by
  have hbrace : ['\x7b'].isSuffixOf a = ['\x7b'].isSuffixOf b := by
    rw [Bool.eq_iff_iff, List.isSuffixOf_iff_suffix, List.isSuffixOf_iff_suffix,
      List.singleton_suffix_iff_getLast?_eq_some, List.singleton_suffix_iff_getLast?_eq_some, hlast]
  unfold opening?
  rw [hfirst, hsecond, hbrace]

/-- code between blanks that is a closing brace is a single token, and only that -/
theorem eq_brace_iff {code : List Char} {tokens : List (List Char)} (htrim : trim code = code)
    (h : tokens? code = some tokens) : code = ['}'] ↔ tokens = [['}']] := by
  constructor
  · rintro rfl
    exact Option.some.inj h.symm
  · intro hsingle
    rw [hsingle] at h
    rw [← htrim, trim_of_token h]

/-- code with the same tokens has the same shape: the mark it may start with, the words it is read off and the brace
it may end in all stand in the tokens -/
theorem codeShape_of_tokens (indented : Bool) {x y t : List Char} {rest : List (List Char)} (hx : trim x = x)
    (hy : trim y = y) (htokens : tokens? x = some (t :: rest)) (htokens' : tokens? y = some (t :: rest)) :
    codeShape indented x = codeShape indented y := by
  have hstart : trimStart x = x := trimStart_eq_self (by rw [← hx]; exact trim_head x)
  have hstart' : trimStart y = y := trimStart_eq_self (by rw [← hy]; exact trim_head y)
  have hend : trimEnd x = x := trimEnd_eq_self (by rw [← hx]; exact trim_tight x)
  have hend' : trimEnd y = y := trimEnd_eq_self (by rw [← hy]; exact trim_tight y)
  have hmark : ['@'].isPrefixOf x = ['@'].isPrefixOf y := by
    obtain ⟨c, more, rfl⟩ := List.exists_cons_of_ne_nil (tokens?_spec htokens t List.mem_cons_self).1.1
    obtain ⟨tail, rfl, -⟩ := tokens?_cons_start htokens hstart
    obtain ⟨tail', rfl, -⟩ := tokens?_cons_start htokens' hstart'
    rfl
  have hfirst : firstWord x = firstWord y := by
    rw [← hstart, ← hstart', firstWord_of_tokens htokens, firstWord_of_tokens htokens']
  have hsecond : firstWord (afterFirstWord x) = firstWord (afterFirstWord y) := by
    rw [secondWord_of_tokens htokens hstart, secondWord_of_tokens htokens' hstart']
  have hlast : x.getLast? = y.getLast? := by
    rw [← hend, ← hend', getLast?_of_tokens htokens, getLast?_of_tokens htokens']
  unfold codeShape
  rw [hmark, opening?_congr hfirst hsecond hlast]
  simp only [eq_brace_iff hx htokens, eq_brace_iff hy htokens']

/-- **The shape of a line is told by its tokens**, and by whether it is indented: neither the blanks between the tokens
nor the comment behind them matter. -/
theorem shape_of_tokens {a b t : List Char} {rest : List (List Char)} (ha : tokens? (codeOf a) = some (t :: rest))
    (hb : tokens? (codeOf b) = some (t :: rest)) (hindented : isIndented a = isIndented b) : shape a = shape b := by
  have hne : ∀ {line : List Char}, tokens? (codeOf line) = some (t :: rest) → trim (codeOf line) ≠ [] := by
    intro line h hnil
    have htokens := tokens?_trim h
    rw [hnil] at htokens
    cases htokens
  rw [shape_of_codeOf (hne ha), shape_of_codeOf (hne hb), hindented]
  exact codeShape_of_tokens _ (trim_trim _) (trim_trim _) (tokens?_trim ha) (tokens?_trim hb)

theorem shape_of_no_tokens {line : List Char} (h : tokens? (codeOf line) = some []) :
    shape line = .blank ∨ shape line = .comment := by
  refine shape_of_no_code ?_
  rw [trim, trimStart_of_no_tokens h]
  rfl

end EntityScaffold.Document

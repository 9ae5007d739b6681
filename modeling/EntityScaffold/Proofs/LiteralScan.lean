import EntityScaffold.Proofs.ClauseScan
import EntityScaffold.Proofs.LineOffset
import EntityScaffold.Proofs.TokenShape

/-!
Comments and tokens told by literals. A text ends outside literals when it is made of whole literals and of characters
that open none (`EndsOutside`), and a reader stands outside literals exactly behind such a text (`endsOutside_iff`). So
the comment of a line is what starts with the first two slashes behind such a text (`commentOf?_isSome_iff`,
`codeOf_isPrefix`), a text has tokens when it is one (`tokens?_eq_none_iff`), and its tokens are the pieces between the
blanks behind such texts (`tokens?_iff`). Main statement: `splitComment_tokens`, in which the comment is searched for
among the bytes of the line, and the tokens are cut out at their offsets.
-/

namespace EntityScaffold.Line

open Text

/-! ## Outside literals -/

/-- the text ends outside literals: it is made of characters that open none, and of whole literals -/
inductive EndsOutside : List Char → Prop
  | nil : EndsOutside []
  | char {c : Char} {rest : List Char} (hquote : c ≠ '"') (hrest : EndsOutside rest) : EndsOutside (c :: rest)
  | literal {body rest : List Char} (hbody : LiteralText body) (hrest : EndsOutside rest) :
      EndsOutside ('"' :: (body ++ '"' :: rest))

/-- a literal that is closed ends with a quote, and the reader stands outside literals in what follows it -/
theorem literal_closed (text : List Char) :
    (placeAfter .literal text = .code → ∃ body rest, text = body ++ '"' :: rest ∧ LiteralText body ∧
      placeAfter .code rest = .code) ∧
    (placeAfter .escape text = .code → ∃ c body rest, text = c :: (body ++ '"' :: rest) ∧ LiteralText body ∧
      placeAfter .code rest = .code) := by
  induction text with
  | nil => exact ⟨nofun, nofun⟩
  | cons c text ih =>
    obtain ⟨hliteral, hescape⟩ := ih
    refine ⟨fun h => ?_, fun h => ?_⟩
    · rw [placeAfter_cons] at h
      by_cases hback : c = '\\'
      · subst hback
        obtain ⟨d, body, rest, rfl, hbody, hrest⟩ := hescape h
        exact ⟨'\\' :: d :: body, rest, rfl, .escaped d hbody, hrest⟩
      · by_cases hquote : c = '"'
        · subst hquote
          exact ⟨[], text, rfl, .nil, h⟩
        · rw [next_literal hquote hback] at h
          obtain ⟨body, rest, rfl, hbody, hrest⟩ := hliteral h
          exact ⟨c :: body, rest, rfl, .plain hquote hback hbody, hrest⟩
    · obtain ⟨body, rest, rfl, hbody, hrest⟩ := hliteral h
      exact ⟨c, body, rest, rfl, hbody, hrest⟩

/-- **A reader stands outside literals** exactly behind a text that ends outside literals. -/
theorem endsOutside_iff {text : List Char} : EndsOutside text ↔ placeAfter .code text = .code := by
  constructor
  · intro h
    induction h with
    | nil => rfl
    | char hquote _ ih =>
      have hnext : ∀ c, c ≠ '"' → Place.code.next c = .code := fun c hc => if_neg hc
      rw [placeAfter_cons, hnext _ hquote, ih]
    | @literal body rest hbody _ ih =>
      have hopen : Place.code.next '"' = .literal := rfl
      rw [placeAfter_cons, hopen, List.append_cons, placeAfter_append, hbody.runs.2.1, ih]
  · intro h
    induction hlength : text.length using Nat.strongRecOn generalizing text with
    | ind n ih =>
      cases text with
      | nil => exact .nil
      | cons c text =>
        rw [placeAfter_cons] at h
        by_cases hquote : c = '"'
        · subst hquote
          obtain ⟨body, rest, rfl, hbody, hrest⟩ := (literal_closed text).1 h
          exact .literal hbody (ih rest.length (by simp at hlength; omega) hrest rfl)
        · rw [Place.next, if_neg hquote] at h
          exact .char hquote (ih text.length (by simp at hlength; omega) h rfl)

/-! ## Comments -/

theorem splitCommentFrom_slashes {p : Place} {before : List Char} (hbefore : placeAfter p before = .code)
    (rest : List Char) : (splitCommentFrom p (before ++ '/' :: '/' :: rest)).2.isSome = true ∧
      (splitCommentFrom p (before ++ '/' :: '/' :: rest)).1 <+: before := by
  induction before generalizing p with
  | nil =>
    have hslashes : p = .code ∧ ['/', '/'] <+: '/' :: '/' :: rest := ⟨hbefore, ⟨rest, rfl⟩⟩
    rw [List.nil_append, splitCommentFrom_cons, if_pos hslashes]
    exact ⟨rfl, List.nil_prefix⟩
  | cons c before ih =>
    obtain ⟨hsome, hcode⟩ := ih hbefore
    rw [List.cons_append, splitCommentFrom_cons]
    split
    · exact ⟨rfl, List.nil_prefix⟩
    · exact ⟨hsome, List.cons_prefix_cons.2 ⟨rfl, hcode⟩⟩

/-- **A line has a comment** exactly if two slashes stand outside literals. -/
theorem commentOf?_isSome_iff (line : List Char) :
    (commentOf? line).isSome = true ↔ ∃ before rest, line = before ++ '/' :: '/' :: rest ∧ EndsOutside before := by
  constructor
  · intro h
    obtain ⟨comment, hcomment⟩ := Option.isSome_iff_exists.1 h
    obtain ⟨hline, hplace, rest, rfl⟩ := commentOf?_eq_some hcomment
    exact ⟨codeOf line, rest, hline, endsOutside_iff.2 hplace⟩
  · rintro ⟨before, rest, rfl, hbefore⟩
    exact (splitCommentFrom_slashes (endsOutside_iff.1 hbefore) rest).1

/-- no two slashes outside literals stand before the comment -/
theorem codeOf_isPrefix {line before rest : List Char} (hline : line = before ++ '/' :: '/' :: rest)
    (hbefore : EndsOutside before) : codeOf line <+: before := by
  subst hline
  exact (splitCommentFrom_slashes (endsOutside_iff.1 hbefore) rest).2

/-! ## Tokens -/

/-- **A text has no tokens** exactly if a literal is left open at its end. -/
theorem tokens?_eq_none_iff {text : List Char} : tokens? text = none ↔ ¬EndsOutside text := by
  rw [endsOutside_iff, tokens?, Option.map_eq_none_iff, ← Option.not_isSome_iff_eq_none, tokensFrom_isSome,
    decide_eq_true_eq]

/-- a piece of a text: it is not empty, no blank stands in it but in literals, and these are whole -/
structure IsPiece (text : List Char) : Prop where
  nonempty : text ≠ []
  whole : EndsOutside text
  unbroken : ∀ before c after, text = before ++ c :: after → EndsOutside before → isBlank c = false

/-- the pieces of a text in their order: blanks stand before the first, between them, and after the last -/
inductive Pieces : List Char → List (List Char) → Prop
  | blanks {gap : List Char} (hgap : ∀ c ∈ gap, isBlank c = true) : Pieces gap []
  | piece {gap piece rest : List Char} {pieces : List (List Char)} (hgap : ∀ c ∈ gap, isBlank c = true)
      (hpiece : IsPiece piece) (hend : StartsBlank rest) (hrest : Pieces rest pieces) :
      Pieces (gap ++ (piece ++ rest)) (piece :: pieces)

/-- the reader of tokens goes through a text without a blank outside literals -/
theorem tokensFrom_whole {p : Place} {text : List Char} : tokensFrom p text = some (text, []) ↔
    placeAfter p text = .code ∧
      ∀ before c after, text = before ++ c :: after → placeAfter p before = .code → isBlank c = false := by
  induction text generalizing p with
  | nil => simp [tokensFrom]
  | cons c text ih =>
    by_cases hblank : p = .code ∧ isBlank c = true
    · obtain ⟨rfl, hc⟩ := hblank
      constructor
      · intro h
        rw [tokensFrom_blank hc] at h
        obtain ⟨r, -, hr⟩ := Option.map_eq_some_iff.1 h
        cases hr
      · intro h
        exact absurd (h.2 [] c text rfl rfl) (by simp [hc])
    · have hc : p = .code → isBlank c = false := by simpa using hblank
      have hstep : tokensFrom p (c :: text) = some (c :: text, []) ↔ tokensFrom (p.next c) text = some (text, []) := by
        rw [tokensFrom_char hc, Option.map_eq_some_iff]
        constructor
        · rintro ⟨⟨piece, tokens⟩, hread, h⟩
          cases h
          exact hread
        · intro hread
          exact ⟨_, hread, rfl⟩
      rw [hstep, ih, placeAfter_cons]
      refine and_congr_right fun _ => ⟨fun h before d after htext hplace => ?_, fun h before d after htext hplace => ?_⟩
      · cases before with
        | nil =>
          obtain ⟨rfl, -⟩ := List.cons.inj htext
          exact hc hplace
        | cons x before =>
          obtain ⟨rfl, rfl⟩ := List.cons.inj htext
          exact h before d after rfl hplace
      · exact h (c :: before) d after (congrArg (c :: ·) htext) hplace

theorem isToken_iff {text : List Char} : IsToken text ↔ IsPiece text := by
  have hwhole := @tokensFrom_whole .code text
  simp only [← endsOutside_iff] at hwhole
  exact ⟨fun h => ⟨h.1, (hwhole.1 h.2).1, (hwhole.1 h.2).2⟩, fun h => ⟨h.1, hwhole.2 ⟨h.2, h.3⟩⟩⟩

/-- **The tokens of a text are its pieces.** -/
theorem tokens?_iff {text : List Char} {tokens : List (List Char)} :
    tokens? text = some tokens ↔ Pieces text tokens := by
  constructor
  · intro h
    induction tokens generalizing text with
    | nil => exact .blanks (blanks_of_no_tokens h)
    | cons token tokens ih =>
      have htoken : IsToken token := (tokens?_spec h token List.mem_cons_self).1
      obtain ⟨gap, rest, rfl, hgap, hend, hrest⟩ := tokens?_cons h
      exact .piece hgap (isToken_iff.1 htoken) hend (ih hrest)
  · intro h
    induction h with
    | @blanks gap hgap =>
      have hread := tokens?_blanks_append hgap []
      rwa [List.append_nil] at hread
    | @piece gap piece rest pieces hgap hpiece hend _ ih =>
      have htoken := isToken_iff.2 hpiece
      rw [tokens?_blanks_append hgap]
      cases rest with
      | nil =>
        have hpieces : pieces = [] := (Option.some.inj ih).symm
        rw [List.append_nil, htoken.tokens?, hpieces]
      | cons c rest =>
        have hc : isBlank c = true := hend c rfl
        rw [tokens?_blank hc] at ih
        rw [tokens?_append_blank htoken.place hc, htoken.tokens?, ih]
        rfl

/-! ## Refused lines -/

theorem bracketList_error {key : ListKey} {args : List Char} {e : LineError} (h : bracketList key args = .error e) :
    e ≠ .unterminatedString := by
  unfold bracketList at h
  split at h
  · cases h
  · split at h
    · split at h <;> cases h
      exact nofun
    · cases h
      exact nofun

theorem readClause_error {clause : List Char} {e : LineError} (h : readClause clause = .error e) :
    e ≠ .unterminatedString := by
  simp only [readClause] at h
  split at h
  · cases hfields : bracketList .fields (clauseArguments clause) with
    | error e' =>
      rw [hfields] at h
      cases h
      exact bracketList_error hfields
    | ok fields =>
      cases hreferences : bracketList .references (clauseArguments clause) with
      | error e' =>
        rw [hfields, hreferences] at h
        cases h
        exact bracketList_error hreferences
      | ok references =>
        rw [hfields, hreferences] at h
        cases h
  · cases h
    exact nofun

theorem fieldOfTokens_error {tokens : List (List Char)} {e : LineError} (h : fieldOfTokens tokens = .error e) :
    e ≠ .unterminatedString := by
  rcases tokens with _ | ⟨name, _ | ⟨rawType, attributes⟩⟩
  · cases h
    rintro ⟨⟩
  · simp only [fieldOfTokens] at h
    split at h <;> cases h <;> rintro ⟨⟩
  · rw [fieldOfTokens_parts, fieldOfParts] at h
    split at h
    · cases hclause : (splitAttributes attributes).2.map joinTokens with
      | none => rw [hclause] at h; cases h
      | some clause =>
        rw [hclause, Option.mapM_some] at h
        cases hread : readClause clause with
        | error e' =>
          rw [hread] at h
          cases h
          exact readClause_error hread
        | ok c => rw [hread] at h; cases h
    · cases h
      rintro ⟨⟩

/-- **A line is refused for a literal** exactly if its code has no tokens. -/
theorem readField_unterminated (line : List Char) :
    readField line = .error .unterminatedString ↔ tokens? (codeOf line) = none := by
  constructor
  · intro h
    cases htokens : tokens? (codeOf line) with
    | none => rfl
    | some tokens =>
      rw [readField_of_tokens htokens] at h
      exact absurd rfl (fieldOfTokens_error h)
  · intro h
    rw [readField, h]

/-! ## Both readings of a line -/

/-- **Comments and tokens agree about literals.** The search among the bytes of a line splits it into code and comment,
between two characters. There is a comment exactly if two slashes stand outside literals; it starts with the first such
two, and the code has tokens. A line without a comment has no tokens exactly if it ends inside a literal, and is refused
for that. The tokens, each cut out between two characters, are the pieces of the code between blanks
outside literals. -/
theorem splitComment_tokens (line : List Char) :
    (cutComment line = some (codeOf line, commentOf? line) ∧ codeOf line ++ (commentOf? line).getD [] = line) ∧
    ((commentOf? line).isSome = true ↔ ∃ before rest, line = before ++ '/' :: '/' :: rest ∧ EndsOutside before) ∧
    (∀ comment, commentOf? line = some comment →
      EndsOutside (codeOf line) ∧ (∃ rest, comment = '/' :: '/' :: rest) ∧
      (∀ before rest, line = before ++ '/' :: '/' :: rest → EndsOutside before → codeOf line <+: before) ∧
      ∃ tokens, tokens? (codeOf line) = some tokens) ∧
    (commentOf? line = none → (tokens? line = none ↔ ¬EndsOutside line) ∧
      (readField line = .error .unterminatedString ↔ ¬EndsOutside line)) ∧
    cutTokens (codeOf line) = some (tokens? (codeOf line)) ∧
    ∀ tokens, tokens? (codeOf line) = some tokens ↔ Pieces (codeOf line) tokens := by
  have hwhole := codeOf_append line
  refine ⟨⟨cutComment_eq line, hwhole⟩, commentOf?_isSome_iff line, fun comment hcomment => ?_, fun hnone => ?_,
    cutTokens_eq _, fun tokens => tokens?_iff⟩
  · obtain ⟨-, hplace, hslashes⟩ := commentOf?_eq_some hcomment
    exact ⟨endsOutside_iff.2 hplace, hslashes, fun before rest => codeOf_isPrefix, tokens?_isSome hplace⟩
  · rw [hnone, Option.getD_none, List.append_nil] at hwhole
    exact ⟨tokens?_eq_none_iff, by rw [readField_unterminated, hwhole, tokens?_eq_none_iff]⟩

def linkLine : List Char := "  link String @default(\"\\é//\\\" x\")@db  // \"see".toList

def openLine : List Char := "  link String @default(\"http://x)".toList

/-- the literal is one piece of the code, with all that stands next to it; the other line is refused for its literal -/
theorem splitComment_tokens_linkLine :
    commentOf? linkLine = some "// \"see".toList ∧ cutComment linkLine = some (codeOf linkLine, commentOf? linkLine) ∧
      EndsOutside (codeOf linkLine) ∧
      Pieces (codeOf linkLine) ["link".toList, "String".toList, "@default(\"\\é//\\\" x\")@db".toList] ∧
      readField openLine = .error .unterminatedString ∧ ¬EndsOutside openLine := by
  have hcomment : commentOf? linkLine = some "// \"see".toList := by decide
  obtain ⟨⟨hcut, -⟩, -, hcode, -, -, hpieces⟩ := splitComment_tokens linkLine
  obtain ⟨-, -, -, hopen, -⟩ := splitComment_tokens openLine
  obtain ⟨htokens, hrefused⟩ := hopen (by decide)
  have hinside : ¬EndsOutside openLine := htokens.1 (by decide)
  exact ⟨hcomment, hcut, (hcode _ hcomment).1, (hpieces _).1 (by decide), hrefused.2 hinside, hinside⟩

end EntityScaffold.Line

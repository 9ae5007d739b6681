import EntityScaffold.Proofs.Arguments
import EntityScaffold.Proofs.ClauseExtent

/-!
The quoted name of a clause. The comment split and the tokenizer know where the literal of a name ends; the extent of
the clause, the balance of its brackets and the search for keys read on within it, and take any quote for its end. A
name is opaque when they find nothing there (`IsOpaque`): the clause with this name alone is balanced, and no key is
found in the name. The text of an opaque name is irrelevant to everything else on the line, and only of an opaque name
is it (`readField_quotedName`).
-/

namespace EntityScaffold.Line

open Text

/-- a clause up to the end of the name it starts with -/
def clauseFront (name : List Char) : List Char := relationMarker ++ '(' :: '"' :: (name ++ ['"'])

/-- the keys of the arguments besides the name -/
def valueKeys : List String := ["fields", "references", "onUpdate", "onDelete"]

/-- the clause with the name alone is balanced, and no key of another argument is found in the name -/
structure IsOpaque (name : List Char) : Prop where
  balanced : isBalanced (clauseFront name ++ [')']) = true
  keyless : ∀ key ∈ valueKeys, afterKey? key name = none

/-- a name without quotes and colons is opaque, whatever brackets, commas and slashes it holds -/
theorem isOpaque_plain {name : List Char} (hquote : '"' ∉ name) (hcolon : ':' ∉ name) : IsOpaque name where
  balanced := by
    have hclause : clauseFront name ++ [')'] = relationMarker ++ '(' :: ('"' :: (name ++ ['"']) ++ [')']) := by
      simp [clauseFront]
    rw [hclause]
    exact isBalanced_parentheses (balanced_quoted hquote)
  keyless _ _ := afterKeyFrom_none hcolon

/-! ## Brackets and parentheses up to the end of the name -/

section Brackets

/-- a character breaks the balance for good, or the rest is read with other brackets open; the extent of the clause
counts the parentheses among them -/
theorem balancedFrom_char (quoted : Bool) (stack : List Char) (c : Char) :
    (∀ rest, balancedFrom quoted stack (c :: rest) = false) ∨ ∃ quoted' stack',
      (∀ rest, balancedFrom quoted stack (c :: rest) = balancedFrom quoted' stack' rest) ∧
      ∀ e : Extent, e.quoted = quoted → (e.next c).quoted = quoted' ∧
        (e.next c).depth - stack'.count '(' = e.depth - stack.count '(' := by
  cases quoted with
  | true =>
    refine Or.inr ⟨_, stack, fun rest => rfl, fun e he => ?_⟩
    by_cases hquote : c = '"' <;> simp [Extent.next, hquote, he]
  | false =>
    by_cases hquote : c = '"'
    · exact Or.inr
        ⟨true, stack, fun rest => by simp [balancedFrom, hquote], fun e he => by simp [Extent.next, hquote, he]⟩
    by_cases hopen : c = '('
    · refine Or.inr ⟨false, '(' :: stack, fun rest => by simp [balancedFrom, hopen], fun e he => ?_⟩
      simp only [hopen, Extent.next, he, List.count_cons_self]
      exact ⟨rfl, by simp⟩
    by_cases hbracket : c = '['
    · exact Or.inr ⟨false, '[' :: stack, fun rest => by simp [balancedFrom, hbracket],
        fun e he => by simp [Extent.next, hbracket, he]⟩
    cases hanswer : answered? c with
    | none =>
      have hclose : c ≠ ')' := by
        rintro rfl
        cases hanswer
      exact Or.inr ⟨false, stack, fun rest => by simp [balancedFrom, hquote, hopen, hbracket, hanswer],
        fun e he => by simp [Extent.next, hquote, hopen, hclose, he]⟩
    | some o =>
      by_cases hhead : stack.head? = some o
      · obtain ⟨below, rfl⟩ := List.head?_eq_some_iff.1 hhead
        refine Or.inr
          ⟨false, below, fun rest => by simp [balancedFrom, hquote, hopen, hbracket, hanswer], fun e he => ?_⟩
        unfold answered? at hanswer
        split at hanswer
        · cases hanswer
          simp only [Extent.next, he, List.count_cons_self]
          exact ⟨rfl, by simp; omega⟩
        · cases hanswer
          simp [Extent.next, he]
        · cases hanswer
      · exact Or.inl fun rest => by simp [balancedFrom, hquote, hopen, hbracket, hanswer, hhead]

theorem balancedFrom_text (text : List Char) (quoted : Bool) (stack : List Char) :
    (∀ rest, balancedFrom quoted stack (text ++ rest) = false) ∨ ∃ quoted' stack',
      (∀ rest, balancedFrom quoted stack (text ++ rest) = balancedFrom quoted' stack' rest) ∧
      ∀ e : Extent, e.quoted = quoted → (text.foldl Extent.next e).quoted = quoted' ∧
        (text.foldl Extent.next e).depth - stack'.count '(' = e.depth - stack.count '(' := by
  induction text generalizing quoted stack with
  | nil => exact Or.inr ⟨quoted, stack, fun _ => rfl, fun _ he => ⟨he, rfl⟩⟩
  | cons c text ih =>
    rcases balancedFrom_char quoted stack c with hbroken | ⟨quoted', stack', hrest, hextent⟩
    · exact Or.inl fun rest => hbroken _
    · rcases ih quoted' stack' with hbroken | ⟨quoted'', stack'', hrest', hextent'⟩
      · exact Or.inl fun rest => (hrest _).trans (hbroken rest)
      · refine Or.inr ⟨quoted'', stack'', fun rest => (hrest _).trans (hrest' rest), fun e he => ?_⟩
        obtain ⟨hquoted, hdepth⟩ := hextent e he
        obtain ⟨hquoted', hdepth'⟩ := hextent' (e.next c) hquoted
        exact ⟨hquoted', hdepth'.trans hdepth⟩

theorem foldl_next_opened (text : List Char) {e : Extent} (h : e.opened = true) :
    (text.foldl Extent.next e).opened = true := by
  induction text generalizing e with
  | nil => exact h
  | cons c text ih =>
    refine ih ?_
    unfold Extent.next
    split_ifs <;> first | exact h | rfl

/-- one parenthesis is left open where a closing one completes the balance -/
theorem of_balancedFrom_close {quoted : Bool} {stack : List Char} (h : balancedFrom quoted stack [')'] = true) :
    quoted = false ∧ stack = ['('] := by
  cases quoted with
  | true => simp [balancedFrom] at h
  | false =>
    rcases stack with _ | ⟨c, _ | ⟨d, stack⟩⟩
    · simp [balancedFrom, answered?] at h
    · simpa [balancedFrom, answered?] using h
    · simp [balancedFrom, answered?] at h

variable {name : List Char}

/-- a name that leaves the clause balanced leaves its outer parenthesis open, and nothing else -/
theorem clauseFront_open (h : isBalanced (clauseFront name ++ [')']) = true) :
    (∀ rest, isBalanced (clauseFront name ++ rest) = balancedFrom false ['('] rest) ∧
      (clauseFront name).foldl Extent.next .start = .inside := by
  have hfront : ∀ rest, isBalanced (clauseFront name ++ rest) = balancedFrom true ['('] ((name ++ ['"']) ++ rest) := by
    intro rest
    have hmarker := even_relationMarker.balanced [] ('(' :: '"' :: ((name ++ ['"']) ++ rest))
    rw [isBalanced, clauseFront, List.append_assoc, List.cons_append, List.cons_append, hmarker]
    simp [balancedFrom]
  rw [hfront] at h
  rcases balancedFrom_text (name ++ ['"']) true ['('] with hbroken | ⟨quoted, stack, hrest, hextent⟩
  · rw [hbroken] at h
    cases h
  · rw [hrest] at h
    obtain ⟨rfl, rfl⟩ := of_balancedFrom_close h
    refine ⟨fun rest => (hfront rest).trans (hrest rest), ?_⟩
    have hopen : (relationMarker ++ ['(', '"']).foldl Extent.next .start = ⟨1, true, true⟩ := by decide
    have hparts : clauseFront name = (relationMarker ++ ['(', '"']) ++ (name ++ ['"']) := by simp [clauseFront]
    obtain ⟨hquoted, hdepth⟩ := hextent ⟨1, true, true⟩ rfl
    have hopened := foldl_next_opened (name ++ ['"']) (e := ⟨1, true, true⟩) rfl
    rw [hparts, List.foldl_append, hopen]
    generalize (name ++ ['"']).foldl Extent.next ⟨1, true, true⟩ = e at hquoted hdepth hopened
    obtain ⟨depth, opened, quoted⟩ := e
    simp only at hquoted hdepth hopened
    have hone : depth = 1 := by omega
    rw [hquoted, hopened, hone]
    rfl

end Brackets

/-! ## The name on its line -/

/-- a field line up to its clause: a name, a type and attributes, with blanks behind them -/
def IsFront (front : List Char) : Prop :=
  ∃ code gap name rawType before, front = code ++ gap ∧ Clean code ∧ (∀ c ∈ gap, isBlank c = true) ∧ gap ≠ [] ∧
    tokens? code = some (name :: rawType :: before) ∧ ∀ t ∈ before, startsClause t = false

section Line

variable {front tail name : List Char}

theorem clauseFront_eq (name : List Char) : clauseFront name = (relationMarker ++ ['(']) ++ '"' :: (name ++ ['"']) := by
  simp [clauseFront]

theorem clauseFront_clean (h : LiteralText name) : Clean (clauseFront name) := by
  have hopen : Clean (relationMarker ++ ['(']) := ⟨rfl, rfl⟩
  rw [clauseFront_eq]
  exact hopen.append h.clean fun hslash => absurd hslash (by decide)

theorem clauseFront_token (h : LiteralText name) : IsToken (clauseFront name) := by
  have hopen : IsToken (relationMarker ++ ['(']) := ⟨by decide, by decide⟩
  rw [clauseFront_eq]
  exact hopen.append h.token

theorem clauseFront_last (name : List Char) : (clauseFront name).getLast? = some '"' := by
  rw [clauseFront_eq, ← List.cons_append, ← List.append_assoc, List.getLast?_concat]

theorem startsClause_clauseFront (name piece : List Char) : startsClause (clauseFront name ++ piece) = true := by
  rw [startsClause, List.isPrefixOf_iff_prefix, clauseFront, List.append_assoc]
  exact List.prefix_append _ _

/-- the tokens of a line with a quoted name: the name belongs to the first token of the clause -/
theorem tokens?_front {code gap : List Char} {tokens : List (List Char)} (hclean : Clean code)
    (hgap : ∀ c ∈ gap, isBlank c = true) (hne : gap ≠ []) (htokens : tokens? code = some tokens) (h : LiteralText name)
    (tail : List Char) : tokens? (codeOf (code ++ gap ++ (clauseFront name ++ tail))) =
      (tokensFrom .code (codeOf tail)).map fun r => tokens ++ (clauseFront name ++ r.1) :: r.2 := by
  have hfront :
      codeOf (code ++ gap ++ (clauseFront name ++ tail)) = code ++ gap ++ (clauseFront name ++ codeOf tail) := by
    have hlast : (clauseFront name).getLast? ≠ some '/' := by rw [clauseFront_last]; decide
    rw [codeOf, splitComment_append (hclean.append_blanks hgap) (append_blanks_last hgap hne), codeOf,
      splitComment_append (clauseFront_clean h) hlast]
  have htoken := clauseFront_token h
  rw [hfront, tokens?_append_blanks_append hclean.place hgap hne, htokens, Option.bind_some, tokens?,
    tokensFrom_append htoken.2]
  cases tokensFrom .code (codeOf tail) with
  | none => rfl
  | some r =>
    have hpiece : clauseFront name ++ r.1 ≠ [] := List.append_ne_nil_of_left_ne_nil htoken.1 _
    simp [consToken, hpiece]

theorem joinTokens_append_head (a b : List Char) (rest : List (List Char)) :
    joinTokens ((a ++ b) :: rest) = a ++ joinTokens (b :: rest) := by
  by_cases hrest : rest = []
  · subst hrest
    simp
  · rw [joinTokens_cons hrest, joinTokens_cons hrest, List.append_assoc]

/-- what stands behind the name makes up the rest of the clause and the attributes after it -/
theorem splitClauseFrom_front (piece : List Char) (rest : List (List Char)) : ∃ text after, ∀ name,
    isBalanced (clauseFront name ++ [')']) = true →
    joinTokens (splitClauseFrom .start ((clauseFront name ++ piece) :: rest)).1 = clauseFront name ++ text ∧
      (splitClauseFrom .start ((clauseFront name ++ piece) :: rest)).2 = after := by
  by_cases hcomplete : (piece.foldl Extent.next .inside).isComplete rest = true
  · refine ⟨piece, rest, fun name hname => ?_⟩
    have hextent := (clauseFront_open hname).2
    rw [splitClauseFrom, List.foldl_append, hextent, if_pos hcomplete]
    exact ⟨joinTokens_singleton _, rfl⟩
  · refine ⟨joinTokens (piece :: (splitClauseFrom (piece.foldl Extent.next .inside) rest).1),
      (splitClauseFrom (piece.foldl Extent.next .inside) rest).2, fun name hname => ?_⟩
    have hextent := (clauseFront_open hname).2
    rw [splitClauseFrom, List.foldl_append, hextent, if_neg hcomplete]
    exact ⟨joinTokens_append_head _ _ _, rfl⟩

/-- **A line around a name.** Whatever the name is, as long as its clause is balanced, the line has a literal that is
left open, or it is read by the same attributes and by the name with the same text behind it. -/
theorem readField_front (hfront : IsFront front) (tail : List Char) :
    (∀ name, LiteralText name → readField (front ++ (clauseFront name ++ tail)) = .error .unterminatedString) ∨
    ∃ field rawType attributes text, ∀ name, LiteralText name → isBalanced (clauseFront name ++ [')']) = true →
      readField (front ++ (clauseFront name ++ tail)) =
        fieldOfParts field rawType attributes (some (clauseFront name ++ text)) := by
  obtain ⟨code, gap, field, rawType, before, rfl, hclean, hgap, hne, htokens, hbefore⟩ := hfront
  cases htail : tokensFrom .code (codeOf tail) with
  | none =>
    refine Or.inl fun name hname => ?_
    rw [readField, tokens?_front hclean hgap hne htokens hname tail, htail]
    rfl
  | some r =>
    obtain ⟨piece, rest⟩ := r
    obtain ⟨text, after, hsplit⟩ := splitClauseFrom_front piece rest
    refine Or.inr ⟨field, rawType, before ++ after, text, fun name hname hbalanced => ?_⟩
    obtain ⟨hclause, hafter⟩ := hsplit name hbalanced
    have hattributes := splitAttributes_append hbefore (startsClause_clauseFront name piece) rest
    rw [readField, tokens?_front hclean hgap hne htokens hname tail, htail]
    simp only [Option.map_some, List.cons_append, fieldOfTokens_parts, hattributes, hclause, hafter]

end Line

/-! ## The clause around the name -/

def Clause.unnamed (c : Clause) : Clause := { c with name := none }

/-- a field line without the name of its clause -/
def FieldLine.unnamed (l : FieldLine) : FieldLine := { l with clause := l.clause.map Clause.unnamed }

section Clause

variable {name name' : List Char}

/-- the arguments are the quoted name and what follows it; an opening parenthesis stands before it when the last one of
the clause does not close it -/
theorem clauseArguments_front (text : List Char) : ∃ lead rest, ':' ∉ lead ∧
    ∀ name, clauseArguments (clauseFront name ++ text) = lead ++ '"' :: (name ++ '"' :: rest) := by
  obtain ⟨blanks, htext, hblanks⟩ := trimEnd_append text
  have hargs : ∀ name, clauseArguments (clauseFront name ++ text) =
      clauseArguments (relationMarker ++ '(' :: '"' :: (name ++ '"' :: trimEnd text)) := by
    intro name
    have hparts : clauseFront name ++ text =
        relationMarker ++ ('(' :: '"' :: (name ++ '"' :: trimEnd text) ++ blanks) := by
      nth_rewrite 1 [htext]
      simp [clauseFront]
    rw [hparts, clauseArguments_append_blanks _ hblanks]
  rcases List.eq_nil_or_concat' (trimEnd text) with hnil | ⟨kept, c, hkept⟩
  · refine ⟨['('], [], by decide, fun name => ?_⟩
    rw [hargs, hnil, ← List.cons_append]
    exact clauseArguments_open ('"' :: name) (by decide)
  · have hc : isBlank c = false := trimEnd_tight text c (by rw [hkept, List.getLast?_concat])
    have hopen : ∀ name, clauseArguments (clauseFront name ++ text) =
        if c = ')' then '"' :: (name ++ '"' :: kept) else '(' :: '"' :: (name ++ '"' :: (kept ++ [c])) := by
      intro name
      rw [hargs, hkept]
      simpa using clauseArguments_open ('"' :: (name ++ '"' :: kept)) hc
    by_cases hclose : c = ')'
    · exact ⟨[], kept, List.not_mem_nil, fun name => by rw [hopen, if_pos hclose, List.nil_append]⟩
    · exact ⟨['('], kept ++ [c], by decide, fun name => by rw [hopen, if_neg hclose, List.singleton_append]⟩

theorem isWord_valueKey {key : String} (h : key ∈ valueKeys) : IsWord key.toList := by
  simp only [valueKeys, List.mem_cons, List.not_mem_nil, or_false] at h
  rcases h with rfl | rfl | rfl | rfl
  · exact isWord_key .fields
  · exact isWord_key .references
  · exact isWord_onUpdate
  · exact isWord_onDelete

/-- a word that starts the text starts it as well behind a character that is part of no word -/
theorem afterKeyFrom_start {key : List Char} {before : Option Char} (h : before.any isWordChar = false)
    (text : List Char) : afterKeyFrom key before text = afterKeyFrom key none text := by
  cases text with
  | nil => rfl
  | cons c rest => rw [afterKeyFrom, afterKeyFrom, h]; rfl

/-- a key is found in the name, or else behind it -/
theorem afterKey?_front {key : String} (hkey : key ∈ valueKeys) {lead : List Char} (hlead : ':' ∉ lead)
    (name rest : List Char) : afterKey? key (lead ++ '"' :: (name ++ '"' :: rest)) =
      ((afterKey? key name).map (· ++ '"' :: rest)).or (afterKeyFrom key.toList (some '"') rest) := by
  have hword := isWord_valueKey hkey
  have hquote : '"' ∉ key.toList := hword.not_mem (by decide)
  rw [afterKey?, afterKeyFrom_skip hword.nonempty hlead hquote (by decide) (by decide),
    afterKeyFrom_append hword.nonempty hquote (by decide) (by decide), afterKeyFrom_start (by decide)]
  rfl

theorem IsOpaque.afterKey? (h : IsOpaque name) {key : String} (hkey : key ∈ valueKeys) {lead : List Char}
    (hlead : ':' ∉ lead) (rest : List Char) : Line.afterKey? key (lead ++ '"' :: (name ++ '"' :: rest)) =
      afterKeyFrom key.toList (some '"') rest := by
  rw [afterKey?_front hkey hlead, h.keyless key hkey]
  rfl

/-- a clause is told, apart from its name, by the balance of its text and by what the other keys find in it -/
theorem readClause_unnamed {a b : List Char} (hbalanced : isBalanced a = isBalanced b)
    (hsearch : ∀ key ∈ valueKeys, Line.afterKey? key (clauseArguments a) = Line.afterKey? key (clauseArguments b)) :
    (readClause a).map Clause.unnamed = (readClause b).map Clause.unnamed := by
  have hlist : ∀ key : ListKey, bracketList key (clauseArguments a) = bracketList key (clauseArguments b) := by
    intro key
    rw [bracketList, bracketList, hsearch key.word (by cases key <;> decide)]
  have hvalue : ∀ key ∈ valueKeys, keyValue? key (clauseArguments a) = keyValue? key (clauseArguments b) := by
    intro key hkey
    rw [keyValue?, keyValue?, hsearch key hkey]
  unfold readClause
  rw [hbalanced]
  split
  · simp only [hlist, hvalue "onUpdate" (by decide), hvalue "onDelete" (by decide)]
    cases bracketList .fields (clauseArguments b) with
    | error e => rfl
    | ok fields => cases bracketList .references (clauseArguments b) <;> rfl
  · rfl

/-- **A clause around opaque names** is read the same, apart from the name. -/
theorem readClause_quotedName (h : IsOpaque name) (h' : IsOpaque name') (text : List Char) :
    (readClause (clauseFront name ++ text)).map Clause.unnamed =
      (readClause (clauseFront name' ++ text)).map Clause.unnamed := by
  obtain ⟨lead, rest, hlead, hargs⟩ := clauseArguments_front text
  refine readClause_unnamed ?_ fun key hkey => ?_
  · rw [(clauseFront_open h.balanced).1, (clauseFront_open h'.balanced).1]
  · rw [hargs, hargs, h.afterKey? hkey hlead, h'.afterKey? hkey hlead]

theorem fieldOfParts_text {field : List Char} (h : isIdentifier field = true) (rawType : List Char)
    (attributes : List (List Char)) (text : List Char) : fieldOfParts field rawType attributes (some text) =
      (readClause text).map fun c => fieldLineOf field rawType (some c) attributes := by
  rw [fieldOfParts, if_pos h, Option.mapM_some]
  cases readClause text <;> rfl

/-- results that agree as `f` shows them agree as `g` shows them, when `g` shows no more -/
theorem map_eq_map {α β γ : Type} {f : α → β} {g : α → γ} {x y : Except LineError α} (h : x.map f = y.map f)
    (hfg : ∀ a b, f a = f b → g a = g b) : x.map g = y.map g := by
  cases x with
  | error e =>
    cases y with
    | error e' => exact congrArg Except.error (Except.error.inj h)
    | ok b => cases h
  | ok a =>
    cases y with
    | error e' => cases h
    | ok b => exact congrArg Except.ok (hfg a b (Except.ok.inj h))

theorem map_map {α β γ : Type} (f : α → β) (g : β → γ) (x : Except LineError α) :
    (x.map f).map g = x.map fun a => g (f a) := by
  cases x <;> rfl

/-- a field line with another clause, if it has one -/
def FieldLine.mapClause (f : Clause → Clause) (l : FieldLine) : FieldLine := { l with clause := l.clause.map f }

theorem fieldOfParts_mapClause (f : Clause → Clause) (field rawType : List Char) (attributes : List (List Char))
    {a b : List Char} (h : (readClause a).map f = (readClause b).map f) :
    (fieldOfParts field rawType attributes (some a)).map (FieldLine.mapClause f) =
      (fieldOfParts field rawType attributes (some b)).map (FieldLine.mapClause f) := by
  by_cases hfield : isIdentifier field = true
  · rw [fieldOfParts_text hfield, fieldOfParts_text hfield, map_map, map_map]
    refine map_eq_map h fun c c' hsame => ?_
    simp only [FieldLine.mapClause, fieldLineOf]
    split <;> simp [hsame]
  · rw [fieldOfParts, fieldOfParts, if_neg hfield, if_neg hfield]

/-- a line with an opaque name is read the same with any other -/
theorem IsOpaque.readField {front : List Char} (hfront : IsFront front) (tail : List Char) (hname : LiteralText name)
    (hname' : LiteralText name') (h : IsOpaque name) (h' : IsOpaque name') :
    (Line.readField (front ++ (clauseFront name ++ tail))).map FieldLine.unnamed =
      (Line.readField (front ++ (clauseFront name' ++ tail))).map FieldLine.unnamed := by
  rcases readField_front hfront tail with hrefused | ⟨field, rawType, attributes, text, hread⟩
  · rw [hrefused name hname, hrefused name' hname']
  · rw [hread name hname h.balanced, hread name' hname' h'.balanced]
    exact fieldOfParts_mapClause Clause.unnamed field rawType attributes (readClause_quotedName h h' text)

end Clause

/-! ## Names that are not opaque -/

section Necessary

variable {name : List Char}

theorem isFront_short : IsFront "f T ".toList :=
  ⟨"f T".toList, [' '], ['f'], ['T'], [], by decide, ⟨rfl, rfl⟩, space_blank, List.cons_ne_nil _ _, by decide, nofun⟩

theorem readField_short (hname : LiteralText name) {tail : List Char} (hcode : codeOf tail = tail)
    (htail : IsToken tail) : readField ("f T ".toList ++ (clauseFront name ++ tail)) =
      (readClause (clauseFront name ++ tail)).map fun c => fieldLineOf ['f'] ['T'] (some c) [] := by
  have htokens : tokens? (codeOf ("f T ".toList ++ (clauseFront name ++ tail))) =
      some [['f'], ['T'], clauseFront name ++ tail] := by
    have hread := tokens?_front (⟨rfl, rfl⟩ : Clean "f T".toList) space_blank (List.cons_ne_nil _ _)
      (by decide : tokens? "f T".toList = some [['f'], ['T']]) hname tail
    rwa [hcode, htail.2] at hread
  have hsplit : splitAttributes [clauseFront name ++ tail] = ([], some [clauseFront name ++ tail]) := by
    have hcut : splitClauseFrom .start [clauseFront name ++ tail] = ([clauseFront name ++ tail], []) := by
      simp only [splitClauseFrom]
      split <;> rfl
    rw [splitAttributes, if_pos (startsClause_clauseFront name tail), hcut]
  rw [readField, htokens]
  simp only [fieldOfTokens_parts, hsplit, Option.map_some, joinTokens_singleton]
  exact fieldOfParts_text (by decide) _ _ _

theorem clauseArguments_closed (name inner : List Char) :
    clauseArguments (clauseFront name ++ (inner ++ [')'])) = [] ++ '"' :: (name ++ '"' :: inner) := by
  have hparts : clauseFront name ++ (inner ++ [')']) =
      relationMarker ++ '(' :: ('"' :: (name ++ '"' :: inner) ++ [')']) := by simp [clauseFront]
  rw [hparts, clauseArguments_parentheses]
  rfl

/-- what a clause says besides its name -/
theorem of_readClause_unnamed {text : List Char} {c : Clause} (h : (readClause text).map Clause.unnamed = .ok c) :
    isBalanced text = true ∧ (∀ key, bracketList key (clauseArguments text) = .ok (c.names key)) ∧
      keyValue? "onUpdate" (clauseArguments text) = c.restrictions.onUpdate ∧
      keyValue? "onDelete" (clauseArguments text) = c.restrictions.onDelete := by
  cases hread : readClause text with
  | error e => rw [hread] at h; cases h
  | ok read =>
    rw [hread] at h
    obtain rfl := Except.ok.inj h
    obtain ⟨hbalanced, fields, references, hfields, hreferences, rfl⟩ := readClause_ok hread
    exact ⟨hbalanced, fun key => by cases key; exact hfields; exact hreferences, rfl, rfl⟩

section Extended

variable {args args' value extra : List Char}

/-- a list that is read is read with more text behind it -/
theorem bracketList_extended {key : ListKey} (h : afterKey? key.word args = some value)
    (h' : afterKey? key.word args' = some (value ++ extra)) {names : List String}
    (hread : bracketList key args = .ok names) : bracketList key args' = .ok names := by
  obtain ⟨gap, hvalue, hgap⟩ := trimStart_append value
  unfold bracketList at hread ⊢
  rw [h] at hread
  rw [h']
  cases hstart : trimStart value with
  | nil => simp [hstart] at hread
  | cons c inner =>
    have hhead : isBlank c = false := trimStart_head value c (by rw [hstart]; rfl)
    have hlonger : trimStart (value ++ extra) = c :: (inner ++ extra) := by
      rw [hvalue, hstart, List.append_assoc]
      exact trimStart_gap hgap hhead _
    by_cases hopen : c = '['
    · subst hopen
      simp only [hstart, hlonger] at hread ⊢
      cases htext : upTo? ']' inner with
      | none => simp [htext] at hread
      | some text =>
        obtain ⟨hclose, rest, rfl⟩ := upTo?_split htext
        rw [htext] at hread
        rw [List.append_assoc, List.cons_append, upTo?_append hclose]
        exact hread
    · simp [hstart, hopen] at hread

/-- a value that is not there does not come up with more text behind it, once a character ends it -/
theorem keyValue?_extended {key : String} {d : Char} (hd : isBlank d = false) (hstop : d ≠ ',' ∧ d ≠ ')')
    (h : afterKey? key args = some (value ++ [d])) (h' : afterKey? key args' = some (value ++ [d] ++ extra))
    (hread : keyValue? key args = none) : keyValue? key args' = none := by
  rw [List.append_assoc] at h'
  have hnone : ∀ text : List Char, trim text = [] → ∀ c ∈ text, isBlank c = true := by
    intro text htext
    obtain ⟨lead, tail, hparts, hlead, htail⟩ := trim_append text
    rw [htext, List.append_nil] at hparts
    rw [hparts]
    exact fun c hc => (List.mem_append.1 hc).elim (hlead c) (htail c)
  unfold keyValue? at hread ⊢
  rw [h, Option.bind_some] at hread
  rw [h', Option.bind_some]
  split at hread
  · next htrim =>
    -- the value ends before the character that is no blank
    have hends : ¬(value.takeWhile fun c => c ≠ ',' && c ≠ ')').length = value.length := by
      intro hall
      rw [List.takeWhile_append, if_pos hall] at htrim
      have hd' := hnone _ htrim d (by simp [hstop])
      rw [hd] at hd'
      cases hd'
    rw [List.takeWhile_append, if_neg hends] at htrim ⊢
    rw [htrim]
  · cases hread

end Extended

/-- an argument with a key behind the name -/
def probe (key : String) : List Char := ',' :: (key.toList ++ ":[x]".toList)

/-- the value of the argument, unless the name hides it -/
def probed : String → Clause
  | "fields" => ⟨none, ["x"], [], ⟨none, none⟩⟩
  | "references" => ⟨none, [], ["x"], ⟨none, none⟩⟩
  | "onUpdate" => ⟨none, [], [], ⟨some "[x]", none⟩⟩
  | _ => ⟨none, [], [], ⟨none, some "[x]"⟩⟩

theorem readClause_probe : ∀ key ∈ valueKeys, codeOf (probe key ++ [')']) = probe key ++ [')'] ∧
    IsToken (probe key ++ [')']) ∧
    (readClause (clauseFront [] ++ (probe key ++ [')']))).map Clause.unnamed = .ok (probed key) := by
  unfold IsToken
  decide +kernel

/-- **Only opaque names are irrelevant.** A name that a clause is read like one without name with is opaque. -/
theorem isOpaque_of_readClause (hsame : ∀ tail, codeOf tail = tail → IsToken tail →
    (readClause (clauseFront name ++ tail)).map Clause.unnamed =
      (readClause (clauseFront [] ++ tail)).map Clause.unnamed) : IsOpaque name := by
  have hnothing : (readClause (clauseFront [] ++ [')'])).map Clause.unnamed = .ok ⟨none, [], [], ⟨none, none⟩⟩ := by
    decide
  obtain ⟨hbalanced, hlists, hupdate, hdelete⟩ :=
    of_readClause_unnamed ((hsame [')'] (by decide) ⟨by decide, by decide⟩).trans hnothing)
  -- what a key in the name hides shows once the key stands behind the name as well
  have hprobe : ∀ key ∈ valueKeys, ∀ value, afterKey? key name = some value →
      afterKey? key (clauseArguments (clauseFront name ++ [')'])) = some (value ++ ['"']) ∧
      afterKey? key (clauseArguments (clauseFront name ++ (probe key ++ [')']))) = some (value ++ ['"'] ++ probe key) ∧
      (readClause (clauseFront name ++ (probe key ++ [')']))).map Clause.unnamed = .ok (probed key) := by
    intro key hkey value hvalue
    obtain ⟨hcode, htoken, hread⟩ := readClause_probe key hkey
    have hshort := afterKey?_front hkey List.not_mem_nil name []
    have hlong := afterKey?_front hkey List.not_mem_nil name (probe key)
    rw [← clauseArguments_closed, hvalue] at hshort hlong
    exact ⟨hshort, hlong.trans (by simp), (hsame _ hcode htoken).trans hread⟩
  have hlist : ∀ key : ListKey, afterKey? key.word name = none := by
    intro key
    by_contra hfound
    obtain ⟨value, hvalue⟩ := Option.ne_none_iff_exists'.1 hfound
    obtain ⟨hshort, hlong, hread⟩ := hprobe key.word (by cases key <;> decide) value hvalue
    have hempty := bracketList_extended hshort hlong (hlists key)
    have hx := (of_readClause_unnamed hread).2.1 key
    rw [hempty] at hx
    cases key <;> cases hx
  have haction : ∀ key ∈ ["onUpdate", "onDelete"], keyValue? key (clauseArguments (clauseFront name ++ [')'])) = none →
      (∀ text, (readClause text).map Clause.unnamed = .ok (probed key) → keyValue? key (clauseArguments text) ≠ none) →
      afterKey? key name = none := by
    intro key hkey hnone hx
    by_contra hfound
    obtain ⟨value, hvalue⟩ := Option.ne_none_iff_exists'.1 hfound
    obtain ⟨hshort, hlong, hread⟩ := hprobe key (List.mem_cons_of_mem _ (List.mem_cons_of_mem _ hkey)) value hvalue
    exact hx _ hread (keyValue?_extended (by decide) (by decide) hshort hlong hnone)
  refine ⟨hbalanced, fun key hkey => ?_⟩
  simp only [valueKeys, List.mem_cons, List.not_mem_nil, or_false] at hkey
  rcases hkey with rfl | rfl | rfl | rfl
  · exact hlist .fields
  · exact hlist .references
  · refine haction _ (by decide) hupdate fun text hread => ?_
    rw [(of_readClause_unnamed hread).2.2.1]
    exact nofun
  · refine haction _ (by decide) hdelete fun text hread => ?_
    rw [(of_readClause_unnamed hread).2.2.2]
    exact nofun

/-- a clause is told by the short line it stands on -/
theorem readClause_of_readField {name' tail : List Char} (hname : LiteralText name) (hname' : LiteralText name')
    (hcode : codeOf tail = tail) (htail : IsToken tail)
    (h : (readField ("f T ".toList ++ (clauseFront name ++ tail))).map FieldLine.unnamed =
      (readField ("f T ".toList ++ (clauseFront name' ++ tail))).map FieldLine.unnamed) :
    (readClause (clauseFront name ++ tail)).map Clause.unnamed =
      (readClause (clauseFront name' ++ tail)).map Clause.unnamed := by
  have hrelation : (declaredField ['f'] ['T'] []).isRelation = true := by decide
  rw [readField_short hname hcode htail, readField_short hname' hcode htail, map_map, map_map] at h
  refine map_eq_map h fun c c' hsame => ?_
  have hclause := congrArg FieldLine.clause hsame
  simpa [FieldLine.unnamed, fieldLineOf, hrelation] using hclause

end Necessary

/-- **The text of an opaque name is irrelevant**, and of no other. Next to an opaque name, a name is opaque exactly when
every field line with a clause that starts with either says the same apart from the name, whatever stands before the
clause and behind the name: both are refused for the same reason, or both are read as the same field, attributes,
lists and actions. -/
theorem readField_quotedName {name name' : List Char} (hname : LiteralText name) (hname' : LiteralText name')
    (h : IsOpaque name') : IsOpaque name ↔ ∀ front tail, IsFront front →
      (readField (front ++ (clauseFront name ++ tail))).map FieldLine.unnamed =
        (readField (front ++ (clauseFront name' ++ tail))).map FieldLine.unnamed := by
  have hnone : IsOpaque [] := isOpaque_plain List.not_mem_nil List.not_mem_nil
  constructor
  · exact fun hpassed front tail hfront => hpassed.readField hfront tail hname hname' h
  · refine fun hsame => isOpaque_of_readClause fun tail hcode htail => ?_
    have hsame' := hsame "f T ".toList tail isFront_short
    rw [h.readField isFront_short tail hname' .nil hnone] at hsame'
    exact readClause_of_readField hname .nil hcode htail hsame'

def pinName : List Char := "say ".toList ++ '\\' :: '"' :: ("hi".toList ++ '\\' :: '"' :: " (top), [//".toList)

def pinLine : List Char := "pinned Post? @id @relation(\"say \\\"hi\\\" (top), [//\", fields: [a]) @unique // \"".toList

def xLine : List Char := "pinned Post? @id @relation(\"x\", fields: [a]) @unique // \"".toList

/-- a name of escaped quotes, brackets and slashes is read like any other; one with a key in it is not -/
theorem readField_quotedName_pin : LiteralText pinName ∧ LiteralText "onDelete: x".toList ∧ LiteralText ['x'] ∧
    IsOpaque ['x'] ∧
    (∃ l, readField pinLine = .ok l ∧ (readField xLine).map FieldLine.unnamed = .ok l.unnamed) ∧
    ¬∀ front tail, IsFront front →
      (readField (front ++ (clauseFront "onDelete: x".toList ++ tail))).map FieldLine.unnamed =
        (readField (front ++ (clauseFront ['x'] ++ tail))).map FieldLine.unnamed := by
  have hplain : ∀ text, '"' ∉ text → '\\' ∉ text → LiteralText text := fun _ => literalText_plain
  have hpin : LiteralText pinName :=
    (hplain "say ".toList (by decide) (by decide)).append <| .escaped '"' <|
      (hplain "hi".toList (by decide) (by decide)).append <| .escaped '"' <|
        hplain " (top), [//".toList (by decide) (by decide)
  have hkeyed : LiteralText "onDelete: x".toList := hplain _ (by decide) (by decide)
  have hx : LiteralText ['x'] := hplain _ (by decide) (by decide)
  have hshort : IsOpaque ['x'] := isOpaque_plain (by decide) (by decide)
  have hpassed : IsOpaque pinName := ⟨by decide +kernel, by decide +kernel⟩
  have hfront : IsFront "pinned Post? @id ".toList :=
    ⟨"pinned Post? @id".toList, [' '], "pinned".toList, "Post?".toList, ["@id".toList], by decide, ⟨rfl, rfl⟩,
      space_blank, List.cons_ne_nil _ _, by decide +kernel, by decide⟩
  have hsame := (readField_quotedName hpin hx hshort).1 hpassed _ ", fields: [a]) @unique // \"".toList hfront
  have hline : "pinned Post? @id ".toList ++ (clauseFront pinName ++ ", fields: [a]) @unique // \"".toList) =
      pinLine := by decide +kernel
  have hother : "pinned Post? @id ".toList ++ (clauseFront ['x'] ++ ", fields: [a]) @unique // \"".toList) = xLine := by
    decide +kernel
  rw [hline, hother] at hsame
  refine ⟨hpin, hkeyed, hx, hshort, ?_, fun hall => ?_⟩
  · have hread : (readField pinLine).isOk = true := by decide +kernel
    cases hl : readField pinLine with
    | error e => rw [hl] at hread; cases hread
    | ok l => exact ⟨l, rfl, by rw [← hsame, hl]; rfl⟩
  · have hnone := ((readField_quotedName hkeyed hx hshort).2 hall).keyless "onDelete" (by decide)
    exact absurd hnone (by decide)

/-- A key in the quoted name is read as an action, and an escaped quote in it as its end. -/
theorem readField_readsInName :
    (readField "f T @relation(\"x\")".toList).map (·.clause) = .ok (some ⟨some "x", [], [], ⟨none, none⟩⟩) ∧
    (readField "f T @relation(\"onDelete: Cascade\")".toList).map (·.clause) =
      .ok (some ⟨some "onDelete: Cascade", [], [], ⟨none, some "Cascade\""⟩⟩) ∧
    readField "f T @relation(\"a\\\"b\")".toList = .error .unbalancedBrackets := by
  decide +kernel

end EntityScaffold.Line

import EntityScaffold.Proofs.FieldLine
import EntityScaffold.Proofs.Literal

/-!
Attributes written and read. The attributes written for a field are among those it was read from
(`mem_of_mem_fieldAttributes`), so a field line is made of pieces of the line that was read (`readField_pieces`), and
writing it anew goes wrong at its clause alone: `settled_iff` says when a field line that is written reads as itself
(`FieldLine.Settled`) by the tokens of its attributes.
-/

namespace EntityScaffold.Line

open Text

/-! ## Kinds of attributes -/

theorem defaultArgument?_eq_some {attr argument : List Char} :
    defaultArgument? attr = some argument ↔ attr = defaultAttribute argument := by
  unfold defaultArgument? defaultAttribute
  rw [Option.bind_eq_some_iff]
  constructor
  · rintro ⟨rest, h1, h2⟩
    rw [List.isPrefixOf?_eq_some_iff_append_eq] at h1
    rw [List.isSuffixOf?_eq_some_iff_append_eq] at h2
    rw [← h1, ← h2, List.append_assoc]
  · rintro rfl
    exact ⟨argument ++ [')'], by rw [List.isPrefixOf?_eq_some_iff_append_eq, List.append_assoc],
      by rw [List.isSuffixOf?_eq_some_iff_append_eq]⟩

theorem opening_isPrefixOf_defaultAttribute (argument : List Char) :
    defaultOpening.isPrefixOf (defaultAttribute argument) = true := by
  rw [List.isPrefixOf_iff_prefix, defaultAttribute, List.append_assoc]
  exact List.prefix_append _ _

theorem isKnownAttribute_defaultAttribute (argument : List Char) :
    isKnownAttribute (defaultAttribute argument) = true := by
  simp [isKnownAttribute, opening_isPrefixOf_defaultAttribute]

theorem defaultAttribute_ne {a argument : List Char} (h : defaultOpening.isPrefixOf a = false) :
    a ≠ defaultAttribute argument := by
  rintro rfl
  rw [opening_isPrefixOf_defaultAttribute] at h
  cases h

theorem isGeneratedDefault_opening {attr : List Char} (h : isGeneratedDefault attr = true) :
    defaultOpening.isPrefixOf attr = true := by
  simp only [isGeneratedDefault, Bool.or_eq_true, List.any_eq_true, decide_eq_true_eq] at h
  rcases h with ⟨g, -, rfl⟩ | h
  · exact opening_isPrefixOf_defaultAttribute _
  · rw [List.isPrefixOf_iff_prefix] at h ⊢
    exact (List.prefix_append _ _).trans h

theorem defaultAttribute_injective {a b : List Char} (h : defaultAttribute a = defaultAttribute b) : a = b := by
  simpa [defaultAttribute] using h

/-! ## Attributes of a field -/

theorem mem_flagAttribute {holds : Bool} {attr a : List Char} :
    a ∈ flagAttribute holds attr ↔ holds = true ∧ a = attr := by
  unfold flagAttribute; split <;> simp_all

theorem mem_valueAttribute {value : Option String} {a : List Char} :
    a ∈ valueAttribute value ↔ ∃ v, value = some v ∧ a = defaultAttribute v.toList := by
  cases value <;> simp [valueAttribute]

theorem mem_fieldAttributes {f : Field} {a : List Char} : a ∈ fieldAttributes f ↔
    (f.isId = true ∧ a = idAttribute) ∨ (f.isUnique = true ∧ a = uniqueAttribute) ∨
    (∃ g, f.generatedBy = some g ∧ a = defaultAttribute g.toList) ∨
    (f.isCreatedAt = true ∧ a = createdAttribute) ∨
    (∃ v, f.default = some v ∧ a = defaultAttribute v.toList) ∨ (f.isUpdatedAt = true ∧ a = updatedAttribute) := by
  simp only [fieldAttributes, List.mem_append, mem_flagAttribute, mem_valueAttribute, or_assoc]

/-- what a field's defaults stand for: an attribute of a generator, an attribute with a literal -/
structure Field.Declared (f : Field) : Prop where
  generated : ∀ g, f.generatedBy = some g → isGeneratedDefault (defaultAttribute g.toList) = true
  literal : ∀ v, f.default = some v → isLiteralDefault (defaultAttribute v.toList) = true

theorem generatedBy_eq_some {name rawType : List Char} {attributes : List (List Char)} {g : String}
    (h : (declaredField name rawType attributes).generatedBy = some g) :
    attributes.find? isGeneratedDefault = some (defaultAttribute g.toList) := by
  obtain ⟨argument, ha, rfl⟩ := Option.map_eq_some_iff.1 h
  obtain ⟨attr, hattr, harg⟩ := Option.bind_eq_some_iff.1 ha
  rw [hattr, defaultArgument?_eq_some.1 harg, String.toList_ofList]

theorem default_eq_some {name rawType : List Char} {attributes : List (List Char)} {v : String}
    (h : (declaredField name rawType attributes).default = some v) :
    defaultAttribute v.toList ∈ attributes ∧ isLiteralDefault (defaultAttribute v.toList) = true := by
  obtain ⟨argument, ha, rfl⟩ := Option.map_eq_some_iff.1 h
  obtain ⟨attr, hattr, harg⟩ := List.exists_of_findSome?_eq_some ha
  rw [defaultArgument?_eq_some.1 harg] at hattr
  rw [String.toList_ofList]
  exact List.mem_filter.1 hattr

theorem declaredField_declared (name rawType : List Char) (attributes : List (List Char)) :
    Field.Declared (declaredField name rawType attributes) where
  generated _ h := List.find?_some (generatedBy_eq_some h)
  literal _ h := (default_eq_some h).2

/-- the attributes written for a field are among those it was read from -/
theorem mem_of_mem_fieldAttributes {name rawType : List Char} {attributes : List (List Char)} {a : List Char}
    (ha : a ∈ fieldAttributes (declaredField name rawType attributes)) : a ∈ attributes := by
  rcases mem_fieldAttributes.1 ha with ⟨h, rfl⟩ | ⟨h, rfl⟩ | ⟨g, h, rfl⟩ | ⟨h, rfl⟩ | ⟨v, h, rfl⟩ | ⟨h, rfl⟩
  · exact List.contains_iff_mem.1 h
  · exact List.contains_iff_mem.1 h
  · exact List.mem_of_find?_eq_some (generatedBy_eq_some h)
  · exact List.contains_iff_mem.1 h
  · exact (default_eq_some h).1
  · exact List.contains_iff_mem.1 h

theorem isKnownAttribute_of_mem {f : Field} {a : List Char} (h : a ∈ fieldAttributes f) :
    isKnownAttribute a = true := by
  rcases mem_fieldAttributes.1 h with ⟨-, rfl⟩ | ⟨-, rfl⟩ | ⟨g, -, rfl⟩ | ⟨-, rfl⟩ | ⟨v, -, rfl⟩ | ⟨-, rfl⟩
  · decide
  · decide
  · exact isKnownAttribute_defaultAttribute _
  · exact isKnownAttribute_defaultAttribute _
  · exact isKnownAttribute_defaultAttribute _
  · decide

theorem startsClause_of_known {a : List Char} (h : isKnownAttribute a = true) : startsClause a = false := by
  simp only [isKnownAttribute, Bool.or_eq_true, decide_eq_true_eq] at h
  rcases h with ((rfl | rfl) | rfl) | h
  · decide
  · decide
  · decide
  · obtain ⟨rest, rfl⟩ := List.isPrefixOf_iff_prefix.1 h
    rfl

/-! ## What a field line is made of -/

theorem splitClauseFrom_append (e : Extent) (tokens : List (List Char)) :
    (splitClauseFrom e tokens).1 ++ (splitClauseFrom e tokens).2 = tokens := by
  induction tokens generalizing e with
  | nil => rfl
  | cons token rest ih =>
    rw [splitClauseFrom]
    split
    · rfl
    · exact congrArg (token :: ·) (ih _)

theorem mem_splitAttributes {tokens : List (List Char)} {a : List Char} (h : a ∈ (splitAttributes tokens).1) :
    a ∈ tokens := by
  induction tokens with
  | nil => cases h
  | cons token rest ih =>
    rw [splitAttributes] at h
    split at h
    · rw [← splitClauseFrom_append .start (token :: rest)]
      exact List.mem_append_right _ h
    · rcases List.mem_cons.1 h with rfl | h
      · exact List.mem_cons_self
      · exact List.mem_cons_of_mem _ (ih h)

theorem mem_clauseTokens {tokens clause : List (List Char)} (h : (splitAttributes tokens).2 = some clause)
    {t : List Char} (ht : t ∈ clause) : t ∈ tokens := by
  induction tokens with
  | nil => cases h
  | cons token rest ih =>
    rw [splitAttributes] at h
    split at h
    · cases h
      rw [← splitClauseFrom_append .start (token :: rest)]
      exact List.mem_append_left _ ht
    · exact List.mem_cons_of_mem _ (ih h)

theorem noComment_codeOf (line : List Char) : NoComment .code (codeOf line) := by
  unfold codeOf splitComment
  cases hc : (splitCommentFrom .code line).2 with
  | none =>
    have := noComment_iff.2 hc
    rw [this]
    exact this
  | some comment => exact (splitCommentFrom_some (Prod.ext rfl hc)).2.1

theorem codeOf_append (line : List Char) : codeOf line ++ (commentOf? line).getD [] = line :=
  splitCommentFrom_append_eq .code line

theorem commentOf?_eq_some {line comment : List Char} (h : commentOf? line = some comment) :
    line = codeOf line ++ comment ∧ placeAfter .code (codeOf line) = .code ∧ ∃ rest, comment = '/' :: '/' :: rest := by
  obtain ⟨h1, -, h2, h3⟩ := splitCommentFrom_some (Prod.ext rfl h : splitComment line = (codeOf line, some comment))
  exact ⟨h1, h2, h3⟩

/-- a text that is a token and stands whole in the code of a line -/
structure Piece (line text : List Char) : Prop where
  token : IsToken text
  clean : Clean text
  part : text <:+: line

/-- the name, the type and the attributes of a field line, apart from its clause -/
def FieldLine.pieces (l : FieldLine) : List (List Char) :=
  l.field.name.toList :: l.field.rawType.toList :: (fieldAttributes l.field ++ l.others)

theorem readField_pieces {line : List Char} {l : FieldLine} (h : readField line = .ok l) :
    ∀ t ∈ l.pieces, Piece line t := by
  obtain ⟨name, rawType, attributes, clause, htokens, -, -, hfield, -, hothers⟩ := readField_ok h
  have hspec := tokens?_spec htokens
  have hpiece : ∀ t ∈ name :: rawType :: attributes, Piece line t := by
    intro t ht
    obtain ⟨htoken, hpart, hcomment⟩ := hspec t ht
    refine ⟨htoken, htoken.clean (hcomment (noComment_codeOf line)), hpart.trans ?_⟩
    exact ⟨[], (commentOf? line).getD [], codeOf_append line⟩
  intro t ht
  rw [FieldLine.pieces, hfield, hothers] at ht
  rcases List.mem_cons.1 ht with rfl | ht
  · simpa [declaredField] using hpiece name List.mem_cons_self
  rcases List.mem_cons.1 ht with rfl | ht
  · simpa [declaredField] using hpiece rawType (List.mem_cons_of_mem _ List.mem_cons_self)
  have hattributes : t ∈ (splitAttributes attributes).1 := by
    rcases List.mem_append.1 ht with ht | ht
    · exact mem_of_mem_fieldAttributes ht
    · exact (List.mem_filter.1 ht).1
  exact hpiece t (List.mem_cons_of_mem _ (List.mem_cons_of_mem _ (mem_splitAttributes hattributes)))

section Pieces

variable {line : List Char} {l : FieldLine}

theorem name_piece (h : readField line = .ok l) : Piece line l.field.name.toList :=
  readField_pieces h _ List.mem_cons_self

theorem type_piece (h : readField line = .ok l) : Piece line l.field.rawType.toList :=
  readField_pieces h _ (List.mem_cons_of_mem _ List.mem_cons_self)

theorem attribute_piece (h : readField line = .ok l) {t : List Char} (ht : t ∈ fieldAttributes l.field ++ l.others) :
    Piece line t := readField_pieces h t (List.mem_cons_of_mem _ (List.mem_cons_of_mem _ ht))

end Pieces

def FieldLine.tail (l : FieldLine) : List Char := joinTokens l.attributes

/-- a field line in one row, without columns and comment -/
def FieldLine.written (l : FieldLine) : List Char :=
  joinTokens (l.field.name.toList :: l.field.rawType.toList :: l.attributes)

/-- the field line reads as itself once it is written, with no part taken for a comment -/
def FieldLine.Settled (l : FieldLine) : Prop := commentOf? l.written = none ∧ readField l.written = .ok l

instance (l : FieldLine) : Decidable l.Settled := inferInstanceAs (Decidable (_ ∧ _))

theorem readField_of_tokens {line : List Char} {tokens : List (List Char)} (h : tokens? (codeOf line) = some tokens) :
    readField line = fieldOfTokens tokens := by
  unfold readField; rw [h]

/-- a line that was read closes its literals before its comment -/
theorem codeOf_clean {line : List Char} {l : FieldLine} (h : readField line = .ok l) : Clean (codeOf line) := by
  obtain ⟨name, rawType, attributes, clause, htokens, -⟩ := readField_ok h
  exact ⟨noComment_codeOf line, placeAfter_of_tokens? htokens⟩

section Settled

variable {line : List Char} {l : FieldLine}

theorem tail_clean (h : readField line = .ok l) (hc : ∀ c, l.clause = some c → Clean c.written) : Clean l.tail := by
  refine clean_joinTokens fun t ht => ?_
  rcases List.mem_append.1 ht with ht | ht
  · exact (attribute_piece h ht).clean
  · cases hl : l.clause with
    | none => rw [hl] at ht; cases ht
    | some c =>
      rw [hl, Option.map_some, Option.toList_some, List.mem_singleton] at ht
      exact ht ▸ hc c hl

theorem clause_clean (h : readField line = .ok l) (htail : Clean l.tail) {c : Clause} (hc : l.clause = some c) :
    Clean c.written := by
  unfold FieldLine.tail FieldLine.attributes at htail
  rw [hc] at htail
  exact clean_last (fun t ht => (attribute_piece h ht).clean) htail

theorem tail_tokens (h : readField line = .ok l) {tokens : List (List Char)} (htokens : tokens? l.tail = some tokens) :
    match l.clause with
    | none => tokens = fieldAttributes l.field ++ l.others
    | some c => ∃ written, tokens? c.written = some written ∧
        tokens = fieldAttributes l.field ++ l.others ++ written := by
  have hpieces : ∀ t ∈ fieldAttributes l.field ++ l.others, IsToken t := fun t ht => (attribute_piece h ht).token
  have hjoined := tokens?_joinTokens hpieces
  unfold FieldLine.tail FieldLine.attributes at htokens
  cases hc : l.clause with
  | none =>
    rw [hc, Option.map_none, Option.toList_none, List.append_nil, hjoined] at htokens
    exact (Option.some.inj htokens).symm
  | some c =>
    simp only
    rw [hc, Option.map_some, Option.toList_some] at htokens
    by_cases hnil : fieldAttributes l.field ++ l.others = []
    · rw [hnil, List.nil_append, joinTokens_singleton] at htokens
      exact ⟨tokens, htokens, by rw [hnil, List.nil_append]⟩
    · rw [joinTokens_append hnil (by simp), joinTokens_singleton,
        tokens?_append_blank (placeAfter_of_tokens? hjoined) (by decide), hjoined] at htokens
      obtain ⟨written, hwritten, rfl⟩ := Option.map_eq_some_iff.1 htokens
      exact ⟨written, hwritten, rfl⟩

theorem FieldLine.ext_of_tail {line' : List Char} {l' : FieldLine} (h : readField line = .ok l)
    (h' : readField line' = .ok l') (hfield : l'.field = l.field) (hclause : l'.clause = l.clause)
    {tokens : List (List Char)} (ht : tokens? l.tail = some tokens) (ht' : tokens? l'.tail = some tokens) : l' = l := by
  have h1 := tail_tokens h ht
  have h2 := tail_tokens h' ht'
  have hothers : l'.others = l.others := by
    rw [hclause] at h2
    cases hc : l.clause with
    | none =>
      simp only [hc] at h1 h2
      rw [h1, hfield] at h2
      exact (List.append_cancel_left h2).symm
    | some c =>
      simp only [hc] at h1 h2
      obtain ⟨w, hw, h1⟩ := h1
      obtain ⟨w', hw', h2⟩ := h2
      rw [hw] at hw'
      cases hw'
      rw [h1, hfield] at h2
      exact (List.append_cancel_left (List.append_cancel_right h2)).symm
  cases l
  cases l'
  simp_all

theorem tokens?_written (h : readField line = .ok l) {tokens : List (List Char)} (ht : tokens? l.tail = some tokens) :
    tokens? l.written = some (l.field.name.toList :: l.field.rawType.toList :: tokens) := by
  have hname := (name_piece h).token
  have htype := (type_piece h).token
  unfold FieldLine.tail at ht
  unfold FieldLine.written
  rw [joinTokens_cons (List.cons_ne_nil _ _), tokens?_append_blank hname.place (by decide), hname.tokens?]
  by_cases hnil : l.attributes = []
  · rw [hnil] at ht ⊢
    cases ht
    rw [joinTokens_singleton, htype.tokens?]
    rfl
  · rw [joinTokens_cons hnil, tokens?_append_blank htype.place (by decide), htype.tokens?, ht]
    rfl

theorem written_clean_iff (h : readField line = .ok l) : Clean l.written ↔ Clean l.tail := by
  have hname := (name_piece h).clean
  have htype := (type_piece h).clean
  unfold FieldLine.written FieldLine.tail
  rw [joinTokens_cons (List.cons_ne_nil _ _), List.append_cons]
  have hboth : Clean (l.field.name.toList ++ [' '] ++ l.field.rawType.toList) :=
    hname.join htype space_blank (List.cons_ne_nil _ _)
  by_cases hnil : l.attributes = []
  · rw [hnil, joinTokens_singleton]
    exact iff_of_true hboth clean_nil
  · rw [joinTokens_cons hnil, ← List.append_assoc, List.append_cons]
    exact ⟨fun hall => hall.right (hboth.append_blanks space_blank).place,
      fun htail => hboth.join htail space_blank (List.cons_ne_nil _ _)⟩

/-- a settled field line: its attributes are clean, and their tokens give the field line back -/
theorem settled_iff (h : readField line = .ok l) : l.Settled ↔ Clean l.tail ∧ ∃ tokens, tokens? l.tail = some tokens ∧
    fieldOfTokens (l.field.name.toList :: l.field.rawType.toList :: tokens) = .ok l := by
  constructor
  · rintro ⟨hcomment, hread⟩
    have hcode : codeOf l.written = l.written := by
      have := codeOf_append l.written
      rwa [hcomment, Option.getD_none, List.append_nil] at this
    have hclean : Clean l.written := hcode ▸ codeOf_clean hread
    have htail := (written_clean_iff h).1 hclean
    obtain ⟨tokens, htokens⟩ := tokens?_isSome htail.place
    refine ⟨htail, tokens, htokens, ?_⟩
    rw [← readField_of_tokens (by rw [hcode]; exact tokens?_written h htokens), hread]
  · rintro ⟨htail, tokens, htokens, hread⟩
    have hsplit := splitComment_clean ((written_clean_iff h).2 htail)
    refine ⟨congrArg Prod.snd hsplit, ?_⟩
    have hcode : codeOf l.written = l.written := congrArg Prod.fst hsplit
    rw [readField_of_tokens (by rw [hcode]; exact tokens?_written h htokens), hread]

end Settled

end EntityScaffold.Line

import EntityScaffold.Proofs.Attributes
import EntityScaffold.Proofs.ClauseText

/-!
A field line written anew. The attributes written for a field, with others after them, declare that field when they
are read (`declaredField_fieldAttributes`). So the attributes of a field line in their canonical order give the same
field (`declaredField_rewritten`), whatever their order was and however often one was repeated, and a field line is
settled as soon as no second clause stands among its attributes and its own clause is cut out whole and read back
(`settled_of_single`).
-/

namespace EntityScaffold.Line

open Text

/-! ## The field of its attributes -/

section Declared

variable {f : Field} {others : List (List Char)}

theorem isKnownAttribute_of_generated {a : List Char} (h : isGeneratedDefault a = true) :
    isKnownAttribute a = true := by
  simp [isKnownAttribute, isGeneratedDefault_opening h]

theorem isGeneratedDefault_created : isGeneratedDefault createdAttribute = false := by decide

/-- an attribute that has a meaning stands among the attributes of a field only as one of its own -/
theorem mem_attributes_of_known (hothers : ∀ t ∈ others, isKnownAttribute t = false) {a : List Char}
    (ha : isKnownAttribute a = true) : a ∈ fieldAttributes f ++ others ↔ a ∈ fieldAttributes f := by
  refine ⟨fun hm => (List.mem_append.1 hm).resolve_right fun ho => ?_, fun hm => List.mem_append_left _ hm⟩
  rw [hothers a ho] at ha
  cases ha

theorem find?_generated (h : Field.Declared f) (hothers : ∀ t ∈ others, isKnownAttribute t = false) :
    (fieldAttributes f ++ others).find? isGeneratedDefault =
      f.generatedBy.map fun g => defaultAttribute g.toList := by
  have hone : ∀ a ∈ fieldAttributes f ++ others, isGeneratedDefault a = true →
      ∃ g, f.generatedBy = some g ∧ a = defaultAttribute g.toList := by
    intro a ha hgen
    have hmem := (mem_attributes_of_known hothers (isKnownAttribute_of_generated hgen)).1 ha
    rcases mem_fieldAttributes.1 hmem with ⟨-, rfl⟩ | ⟨-, rfl⟩ | hown | ⟨-, rfl⟩ | ⟨v, hv, rfl⟩ | ⟨-, rfl⟩
    · exact absurd hgen (by decide)
    · exact absurd hgen (by decide)
    · exact hown
    · rw [isGeneratedDefault_created] at hgen; cases hgen
    · have hliteral := h.literal v hv
      rw [isLiteralDefault, hgen] at hliteral
      cases hliteral
    · exact absurd hgen (by decide)
  cases hfind : (fieldAttributes f ++ others).find? isGeneratedDefault with
  | some a =>
    obtain ⟨g, hg, rfl⟩ := hone a (List.mem_of_find?_eq_some hfind) (List.find?_some hfind)
    rw [hg]
    rfl
  | none =>
    cases hg : f.generatedBy with
    | none => rfl
    | some g =>
      have hmem : defaultAttribute g.toList ∈ fieldAttributes f :=
        mem_fieldAttributes.2 (Or.inr (Or.inr (Or.inl ⟨g, hg, rfl⟩)))
      exact absurd (h.generated g hg) (List.find?_eq_none.1 hfind _ (List.mem_append_left _ hmem))

theorem findSome?_literal (h : Field.Declared f) (hothers : ∀ t ∈ others, isKnownAttribute t = false) :
    ((fieldAttributes f ++ others).filter isLiteralDefault).findSome? defaultArgument? =
      f.default.map String.toList := by
  have hone : ∀ a ∈ fieldAttributes f ++ others, isLiteralDefault a = true →
      ∀ argument, defaultArgument? a = some argument → ∃ v, f.default = some v ∧ argument = v.toList := by
    intro a ha hliteral argument hargument
    have hdefault := defaultArgument?_eq_some.1 hargument
    have hmem := (mem_attributes_of_known hothers (hdefault ▸ isKnownAttribute_defaultAttribute argument)).1 ha
    rcases mem_fieldAttributes.1 hmem with ⟨-, rfl⟩ | ⟨-, rfl⟩ | ⟨g, hg, rfl⟩ | ⟨-, rfl⟩ | ⟨v, hv, rfl⟩ | ⟨-, rfl⟩
    · exact absurd hdefault (defaultAttribute_ne (by decide))
    · exact absurd hdefault (defaultAttribute_ne (by decide))
    · rw [isLiteralDefault, h.generated g hg] at hliteral
      cases hliteral
    · exact absurd hliteral (by decide)
    · exact ⟨v, hv, (defaultAttribute_injective hdefault).symm⟩
    · exact absurd hdefault (defaultAttribute_ne (by decide))
  cases hfind : ((fieldAttributes f ++ others).filter isLiteralDefault).findSome? defaultArgument? with
  | some argument =>
    obtain ⟨a, ha, hargument⟩ := List.exists_of_findSome?_eq_some hfind
    obtain ⟨hmem, hliteral⟩ := List.mem_filter.1 ha
    obtain ⟨v, hv, rfl⟩ := hone a hmem hliteral argument hargument
    rw [hv]
    rfl
  | none =>
    cases hv : f.default with
    | none => rfl
    | some v =>
      have hmem : defaultAttribute v.toList ∈ fieldAttributes f :=
        mem_fieldAttributes.2 (Or.inr (Or.inr (Or.inr (Or.inr (Or.inl ⟨v, hv, rfl⟩)))))
      have hnone := List.findSome?_eq_none_iff.1 hfind _
        (List.mem_filter.2 ⟨List.mem_append_left _ hmem, h.literal v hv⟩)
      rw [defaultArgument?_eq_some.2 rfl] at hnone
      cases hnone

theorem contains_flag (hothers : ∀ t ∈ others, isKnownAttribute t = false) {a : List Char} {holds : Bool}
    (ha : isKnownAttribute a = true) (h : a ∈ fieldAttributes f ↔ holds = true) :
    (fieldAttributes f ++ others).contains a = holds := by
  rw [Bool.eq_iff_iff, List.contains_iff_mem, mem_attributes_of_known hothers ha, h]

theorem mem_flags {a : List Char} (h : defaultOpening.isPrefixOf a = false) : a ∈ fieldAttributes f ↔
    f.isId = true ∧ a = idAttribute ∨ f.isUnique = true ∧ a = uniqueAttribute ∨
      f.isCreatedAt = true ∧ a = createdAttribute ∨ f.isUpdatedAt = true ∧ a = updatedAttribute := by
  have hdefault (argument) : a ≠ defaultAttribute argument := defaultAttribute_ne h
  simp [mem_fieldAttributes, hdefault]

theorem mem_id : idAttribute ∈ fieldAttributes f ↔ f.isId = true := by
  have hne : idAttribute ≠ uniqueAttribute ∧ idAttribute ≠ createdAttribute ∧ idAttribute ≠ updatedAttribute := by
    decide
  simp [mem_flags (by decide : defaultOpening.isPrefixOf idAttribute = false), hne]

theorem mem_unique : uniqueAttribute ∈ fieldAttributes f ↔ f.isUnique = true := by
  have hne : uniqueAttribute ≠ idAttribute ∧ uniqueAttribute ≠ createdAttribute ∧
      uniqueAttribute ≠ updatedAttribute := by decide
  simp [mem_flags (by decide : defaultOpening.isPrefixOf uniqueAttribute = false), hne]

theorem mem_updated : updatedAttribute ∈ fieldAttributes f ↔ f.isUpdatedAt = true := by
  have hne : updatedAttribute ≠ idAttribute ∧ updatedAttribute ≠ uniqueAttribute ∧
      updatedAttribute ≠ createdAttribute := by decide
  simp [mem_flags (by decide : defaultOpening.isPrefixOf updatedAttribute = false), hne]

/-- the default of creation is neither a generated one nor a literal, so it stands for creation only -/
theorem mem_created (h : Field.Declared f) : createdAttribute ∈ fieldAttributes f ↔ f.isCreatedAt = true := by
  have hne : createdAttribute ≠ idAttribute ∧ createdAttribute ≠ uniqueAttribute ∧
      createdAttribute ≠ updatedAttribute := by decide
  have hgenerated : ∀ g, f.generatedBy = some g → createdAttribute ≠ defaultAttribute g.toList := by
    intro g hg hsame
    have hgen := h.generated g hg
    rw [← hsame, isGeneratedDefault_created] at hgen
    cases hgen
  have hliteral : ∀ v, f.default = some v → createdAttribute ≠ defaultAttribute v.toList := by
    intro v hv hsame
    have hlit := h.literal v hv
    rw [← hsame] at hlit
    exact absurd hlit (by decide)
  simp only [mem_fieldAttributes, hne, and_false, false_or, or_false, and_true]
  constructor
  · rintro (⟨g, hg, hsame⟩ | hflag | ⟨v, hv, hsame⟩)
    · exact absurd hsame (hgenerated g hg)
    · exact hflag
    · exact absurd hsame (hliteral v hv)
  · exact fun hflag => Or.inr (Or.inl hflag)

/-- **The attributes of a field declare it.** -/
theorem declaredField_fieldAttributes (h : Field.Declared f)
    (hlink : f.link = if f.isRelation then .implicit else .none) (hothers : ∀ t ∈ others, isKnownAttribute t = false) :
    declaredField f.name.toList f.rawType.toList (fieldAttributes f ++ others) = f := by
  have hscalar : (if (Scalar.ofName? (stripMarkers f.rawType.toList)).isSome then Link.none else .implicit) =
      f.link := by
    rw [hlink, Field.isRelation, Field.scalar?]
    cases Scalar.ofName? (stripMarkers f.rawType.toList) <;> rfl
  have hgenerator : ((((fieldAttributes f ++ others).find? isGeneratedDefault).bind defaultArgument?).map
      String.ofList) = f.generatedBy := by
    rw [find?_generated h hothers]
    cases f.generatedBy with
    | none => rfl
    | some g => simp [defaultArgument?_eq_some.2 rfl]
  have hvalue : ((((fieldAttributes f ++ others).filter isLiteralDefault).findSome? defaultArgument?).map
      String.ofList) = f.default := by
    rw [findSome?_literal h hothers]
    cases f.default <;> simp
  unfold declaredField
  rw [contains_flag hothers (by decide) mem_id, contains_flag hothers (by decide) mem_unique,
    contains_flag hothers (by decide) (mem_created h), contains_flag hothers (by decide) mem_updated, hgenerator,
    hvalue, hscalar, String.ofList_toList, String.ofList_toList]

end Declared

/-! ## The field written anew -/

/-- the attributes of a field in their canonical order -/
def rewritten (name rawType : List Char) (attributes : List (List Char)) : List (List Char) :=
  fieldAttributes (declaredField name rawType attributes) ++ attributes.filter (!isKnownAttribute ·)

/-- **The same field.** The attributes of a field in their canonical order declare the field they were written for. -/
theorem declaredField_rewritten (name rawType : List Char) (attributes : List (List Char)) :
    declaredField name rawType (rewritten name rawType attributes) = declaredField name rawType attributes := by
  have hothers : ∀ t ∈ attributes.filter (!isKnownAttribute ·), isKnownAttribute t = false := by simp
  have hlink : (declaredField name rawType attributes).link =
      if (declaredField name rawType attributes).isRelation then .implicit else .none := by
    simp only [declaredField, Field.isRelation, Field.scalar?, String.toList_ofList]
    cases Scalar.ofName? (stripMarkers rawType) <;> rfl
  have hsame := declaredField_fieldAttributes (declaredField_declared name rawType attributes) hlink hothers
  have hname : (declaredField name rawType attributes).name.toList = name := String.toList_ofList
  have htype : (declaredField name rawType attributes).rawType.toList = rawType := String.toList_ofList
  rwa [hname, htype] at hsame

theorem others_rewritten (name rawType : List Char) (attributes : List (List Char)) :
    (rewritten name rawType attributes).filter (!isKnownAttribute ·) = attributes.filter (!isKnownAttribute ·) := by
  have hnone : (fieldAttributes (declaredField name rawType attributes)).filter (!isKnownAttribute ·) = [] := by
    rw [List.filter_eq_nil_iff]
    intro a ha
    simp [isKnownAttribute_of_mem ha]
  rw [rewritten, List.filter_append, hnone, List.nil_append, List.filter_filter]
  simp

/-! ## The clause -/

theorem splitAttributes_append {attributes : List (List Char)} (h : ∀ t ∈ attributes, startsClause t = false)
    {token : List Char} (ht : startsClause token = true) (rest : List (List Char)) :
    splitAttributes (attributes ++ token :: rest) =
      (attributes ++ (splitClauseFrom .start (token :: rest)).2, some (splitClauseFrom .start (token :: rest)).1) := by
  induction attributes with
  | nil => simp only [List.nil_append, splitAttributes, ht, if_true]
  | cons a attributes ih =>
    have ha := h a List.mem_cons_self
    have hrest := ih fun t htm => h t (List.mem_cons_of_mem _ htm)
    rw [List.cons_append, splitAttributes, ha, hrest]
    rfl

/-- characters that are neither blanks nor quotes belong to the first token -/
theorem tokensFrom_plain {lead : List Char} (h : ∀ c ∈ lead, isBlank c = false ∧ c ≠ '"') (text : List Char) :
    tokensFrom .code (lead ++ text) = (tokensFrom .code text).map fun r => (lead ++ r.1, r.2) := by
  induction lead with
  | nil => simp
  | cons c lead ih =>
    obtain ⟨hblank, hquote⟩ := h c List.mem_cons_self
    have hnext : Place.code.next c = .code := by simp [Place.next, hquote]
    rw [List.cons_append, tokensFrom_char fun _ => hblank, hnext, ih fun x hx => h x (List.mem_cons_of_mem _ hx),
      Option.map_map]
    rfl

theorem tokens?_clause {c : Clause} {tokens : List (List Char)} (h : tokens? c.written = some tokens) :
    ∃ token rest, tokens = token :: rest ∧ startsClause token = true := by
  obtain ⟨text, htext⟩ := written_marker c
  have hmarker : ∀ x ∈ relationMarker, isBlank x = false ∧ x ≠ '"' := by
    have hall : relationMarker.all (fun x => !isBlank x && x ≠ '"') = true := by decide
    simpa only [List.all_eq_true, Bool.and_eq_true, Bool.not_eq_true', decide_eq_true_eq] using hall
  rw [htext, tokens?, tokensFrom_plain hmarker, Option.map_map] at h
  obtain ⟨r, -, rfl⟩ := Option.map_eq_some_iff.1 h
  refine ⟨relationMarker ++ r.1, r.2, ?_, ?_⟩
  · simp only [Function.comp_apply, consToken]
    rw [if_neg (List.append_ne_nil_of_left_ne_nil (by decide) _)]
  · rw [startsClause, List.isPrefixOf_iff_prefix]
    exact List.prefix_append _ _

/-- a clause that is cut out whole once it is written, and read back -/
def Clause.Settled (c : Clause) : Prop :=
  commentOf? c.written = none ∧ ∃ tokens, tokens? c.written = some tokens ∧ (splitClauseFrom .start tokens).2 = [] ∧
    readClause (joinTokens tokens) = .ok c

theorem Clause.Settled.clean {c : Clause} (h : c.Settled) : Clean c.written := by
  obtain ⟨hcomment, tokens, htokens, -⟩ := h
  exact ⟨noComment_iff.2 hcomment, placeAfter_of_tokens? htokens⟩

/-! ## The field line -/

theorem fieldOfTokens_ok {name rawType : List Char} {tokens attributes : List (List Char)}
    {clauseTokens : Option (List (List Char))} {clause : Option Clause} (hname : isIdentifier name = true)
    (hsplit : splitAttributes tokens = (attributes, clauseTokens))
    (hclause : (clauseTokens.mapM fun tokens => readClause (joinTokens tokens)) = .ok clause) :
    fieldOfTokens (name :: rawType :: tokens) = .ok ⟨declaredField name rawType attributes,
      if (declaredField name rawType attributes).isRelation then clause else none,
      attributes.filter (!isKnownAttribute ·)⟩ := by
  simp only [fieldOfTokens, hname, if_true, hsplit, hclause]
  rfl

/-- attributes that declare the field of a field line and leave its others over -/
structure FieldLine.DeclaredBy (l : FieldLine) (attributes : List (List Char)) : Prop where
  plain : ∀ t ∈ attributes, startsClause t = false
  field : declaredField l.field.name.toList l.field.rawType.toList attributes = l.field
  others : attributes.filter (!isKnownAttribute ·) = l.others

section DeclaredBy

variable {l : FieldLine} {attributes : List (List Char)}

/-- attributes alone give a field line without a clause -/
theorem FieldLine.DeclaredBy.reads (h : l.DeclaredBy attributes) (hname : isIdentifier l.field.name.toList = true)
    (hc : l.clause = none) : fieldOfTokens (l.field.name.toList :: l.field.rawType.toList :: attributes) = .ok l := by
  have hany : attributes.any startsClause = false := by
    rw [List.any_eq_false]
    intro t ht
    simp [h.plain t ht]
  rw [fieldOfTokens_ok hname (splitAttributes_of_not_any hany) rfl, h.field, h.others, ite_self, ← hc]

theorem FieldLine.DeclaredBy.reads_clause (h : l.DeclaredBy attributes)
    (hname : isIdentifier l.field.name.toList = true) {c : Clause} (hc : l.clause = some c)
    (hrelation : l.field.isRelation = true) (hsettled : c.Settled) {written : List (List Char)}
    (hwritten : tokens? c.written = some written) :
    fieldOfTokens (l.field.name.toList :: l.field.rawType.toList :: (attributes ++ written)) = .ok l := by
  obtain ⟨-, written', hread, hwhole, hback⟩ := hsettled
  rw [hwritten] at hread
  cases hread
  obtain ⟨token, rest, rfl, htoken⟩ := tokens?_clause hwritten
  have hall : (splitClauseFrom .start (token :: rest)).1 = token :: rest := by
    have happend := splitClauseFrom_append .start (token :: rest)
    rwa [hwhole, List.append_nil] at happend
  have hsplit := splitAttributes_append h.plain htoken rest
  rw [hwhole, hall, List.append_nil] at hsplit
  have hmap : (some (token :: rest)).mapM (fun tokens => readClause (joinTokens tokens)) = .ok (some c) := by
    rw [Option.mapM_some, hback]
    rfl
  rw [fieldOfTokens_ok hname hsplit hmap, h.field, h.others, if_pos hrelation, ← hc]

end DeclaredBy

/-- **A field line with at most one clause is settled** when the clause is: whatever attributes it has, in whatever
order and however often, it reads as itself once it is written. -/
theorem settled_of_single {line : List Char} {l : FieldLine} (h : readField line = .ok l)
    (hothers : ∀ t ∈ l.others, startsClause t = false) (hclause : ∀ c, l.clause = some c → c.Settled) : l.Settled := by
  have hclean : Clean l.tail := tail_clean h fun c hc => (hclause c hc).clean
  have hplain : ∀ t ∈ fieldAttributes l.field ++ l.others, startsClause t = false := by
    intro t ht
    rcases List.mem_append.1 ht with ht | ht
    · exact startsClause_of_known (isKnownAttribute_of_mem ht)
    · exact hothers t ht
  obtain ⟨tokens, htokens⟩ := tokens?_isSome hclean.place
  refine (settled_iff h).2 ⟨hclean, tokens, htokens, ?_⟩
  have htail := tail_tokens h htokens
  have hidentifier := readField_name h
  -- what is written are the attributes of the field that was read, in their canonical order
  obtain ⟨name, rawType, attributes, clause, -, -, -, hfield, hl, hother⟩ := readField_ok h
  generalize (splitAttributes attributes).1 = kept at hfield hother
  have hwritten : fieldAttributes l.field ++ l.others = rewritten name rawType kept := by rw [hfield, hother]; rfl
  have hnames : l.field.name.toList = name ∧ l.field.rawType.toList = rawType := by simp [hfield, declaredField]
  have hdeclared : l.DeclaredBy (fieldAttributes l.field ++ l.others) := {
    plain := hplain
    field := by rw [hwritten, hnames.1, hnames.2]; exact (declaredField_rewritten name rawType kept).trans hfield.symm
    others := by rw [hwritten]; exact (others_rewritten name rawType kept).trans hother.symm }
  cases hc : l.clause with
  | none =>
    simp only [hc] at htail
    rw [htail]
    exact hdeclared.reads hidentifier hc
  | some c =>
    simp only [hc] at htail
    obtain ⟨written, hread, htail⟩ := htail
    have hrelation : l.field.isRelation = true := by
      rw [hl] at hc
      split at hc
      · assumption
      · cases hc
    rw [htail]
    exact hdeclared.reads_clause hidentifier hc hrelation (hclause c hc) hread

end EntityScaffold.Line

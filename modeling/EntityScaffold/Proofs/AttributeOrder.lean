import EntityScaffold.Proofs.ClauseExtent

/-!
Attributes in any order. The clause of a field line is cut out whole wherever it stands, so a line is read by its
attributes and its clause alone (`Arranged.readField`). In another order the attributes declare the same field, apart
from the first generated and the first literal default (`declaredField_perm`). Only the first generated default counts,
closed or not; so the order decides whether the field is generated exactly when a generated default that is closed
stands beside one that is not (`Torn`).
-/

namespace EntityScaffold.Line

open Text

/-! ## Clauses with one list of arguments -/

/-- apart from literals, the parentheses of the text close within it; no backslash stands in a literal -/
inductive Parenthesized : List Char → Prop
  | nil : Parenthesized []
  | char {c : Char} {rest : List Char} (hquote : c ≠ '"') (hopen : c ≠ '(') (hclose : c ≠ ')')
      (hrest : Parenthesized rest) : Parenthesized (c :: rest)
  | literal {text rest : List Char} (hquote : '"' ∉ text) (hescape : '\\' ∉ text) (hrest : Parenthesized rest) :
      Parenthesized ('"' :: (text ++ '"' :: rest))
  | parentheses {inner rest : List Char} (hinner : Parenthesized inner) (hrest : Parenthesized rest) :
      Parenthesized ('(' :: (inner ++ ')' :: rest))

theorem Parenthesized.enclosed {text : List Char} (h : Parenthesized text) : Enclosed text := by
  induction h with
  | nil => exact enclosed_nil
  | char hquote hopen hclose _ ih => exact (enclosed_char hquote hopen hclose).append ih
  | @literal text rest hquote hescape _ ih =>
    have hliteral := (even_quoted hquote hescape).toFlat.enclosed.append ih
    simpa using hliteral
  | @parentheses inner rest _ _ ihinner ihrest =>
    have hlist := ihinner.parentheses.append ihrest
    simpa using hlist

theorem parenthesized_plain {text : List Char} (h : text.all (fun c => c ≠ '"' && c ≠ '(' && c ≠ ')') = true) :
    Parenthesized text := by
  induction text with
  | nil => exact .nil
  | cons c text ih =>
    simp only [List.all_cons, Bool.and_eq_true, decide_eq_true_eq] at h
    obtain ⟨⟨⟨hquote, hopen⟩, hclose⟩, hrest⟩ := h
    exact .char hquote hopen hclose (ih (by simpa using hrest))

/-- the tokens are a clause with one list of arguments -/
def IsClause (tokens : List (List Char)) : Prop :=
  ∃ gap inner, (gap = [] ∨ gap = [' ']) ∧ Parenthesized inner ∧
    joinTokens tokens = relationMarker ++ (gap ++ '(' :: (inner ++ [')']))

theorem IsClause.starts {tokens : List (List Char)} (h : IsClause tokens) :
    ∃ token rest, tokens = token :: rest ∧ startsClause token = true := by
  obtain ⟨gap, inner, -, -, hjoin⟩ := h
  cases tokens with
  | nil => exact absurd hjoin.symm (List.append_ne_nil_of_left_ne_nil (by decide) _)
  | cons token rest =>
    refine ⟨token, rest, rfl, List.isPrefixOf_iff_prefix.2 ?_⟩
    by_cases hrest : rest = []
    · subst hrest
      rw [joinTokens_singleton] at hjoin
      exact ⟨_, hjoin.symm⟩
    · rw [joinTokens_cons hrest] at hjoin
      rcases List.append_eq_append_iff.1 hjoin with ⟨more, hmore, hspace⟩ | ⟨more, hmore, -⟩
      · -- no space stands in the marker
        cases more with
        | nil => exact ⟨[], by simpa using hmore⟩
        | cons x more =>
          obtain rfl := (List.cons.inj hspace).1
          exact absurd (hmore ▸ List.mem_append_right _ List.mem_cons_self : ' ' ∈ relationMarker) (by decide)
      · exact ⟨more, hmore.symm⟩

/-! ## The clause among the attributes -/

/-- a line of a name, a type, attributes in this order, and the clause somewhere among them -/
structure Arranged (line name rawType : List Char) (attributes clause : List (List Char)) : Prop where
  tokens : ∃ before after, attributes = before ++ after ∧
    tokens? (codeOf line) = some (name :: rawType :: (before ++ clause ++ after))
  plain : ∀ t ∈ attributes, startsClause t = false
  clause : clause = [] ∨ IsClause clause

def clauseText (clause : List (List Char)) : Option (List Char) :=
  if clause = [] then none else some (joinTokens clause)

section Arranged

variable {line name rawType : List Char} {attributes attributes' clause : List (List Char)}

theorem splitAttributes_arranged {before after : List (List Char)}
    (hplain : ∀ t ∈ before ++ after, startsClause t = false) (hclause : clause = [] ∨ IsClause clause) :
    (splitAttributes (before ++ clause ++ after)).1 = before ++ after ∧
      (splitAttributes (before ++ clause ++ after)).2.map joinTokens = clauseText clause := by
  rcases hclause with rfl | hclause
  · have hany : (before ++ after).any startsClause = false := by
      rw [List.any_eq_false]
      exact fun t ht => by simp [hplain t ht]
    rw [List.append_nil, splitAttributes_of_not_any hany]
    exact ⟨rfl, rfl⟩
  · obtain ⟨token, rest, hcons, htoken⟩ := hclause.starts
    obtain ⟨gap, inner, hgap, hinner, hjoin⟩ := hclause
    have hcut := splitClauseFrom_enclosed hgap hinner.enclosed hjoin after
    have hsplit := splitAttributes_append (fun t ht => hplain t (List.mem_append_left _ ht)) htoken (rest ++ after)
    rw [← List.cons_append, ← hcons, hcut] at hsplit
    rw [List.append_assoc, hsplit]
    exact ⟨rfl, by rw [clauseText, if_neg (by simp [hcons])]; rfl⟩

/-- **A line is read by its attributes and its clause**, wherever the clause stands. -/
theorem Arranged.readField (h : Arranged line name rawType attributes clause) :
    Line.readField line = fieldOfParts name rawType attributes (clauseText clause) := by
  obtain ⟨⟨before, after, rfl, htokens⟩, hplain, hclause⟩ := h
  obtain ⟨hattributes, htext⟩ := splitAttributes_arranged hplain hclause
  simp only [Line.readField, htokens, fieldOfTokens_parts, hattributes, htext]

end Arranged

/-! ## The field declared by attributes in another order -/

section Permuted

variable {name rawType : List Char} {attributes attributes' : List (List Char)}

/-- what a list holds at most once is in no order -/
theorem filter_eq_of_perm (h : attributes.Perm attributes') {p : List Char → Bool} (hp : attributes.countP p ≤ 1) :
    attributes.filter p = attributes'.filter p := by
  have hperm := h.filter p
  rw [List.countP_eq_length_filter] at hp
  match hfilter : attributes.filter p, hp with
  | [], _ => rw [hfilter] at hperm; exact (List.perm_nil.1 hperm.symm).symm
  | [a], _ => rw [hfilter] at hperm; exact (List.perm_singleton.1 hperm.symm).symm

/-- a default that is written out and closed -/
def writesDefault (attr : List Char) : Bool := isLiteralDefault attr && (defaultArgument? attr).isSome

/-- a default of a generator that is closed -/
def namesGenerator (attr : List Char) : Bool := isGeneratedDefault attr && (defaultArgument? attr).isSome

/-- a generated default that is closed stands beside one that is not -/
def Torn (attributes : List (List Char)) : Prop :=
  (∃ a ∈ attributes, namesGenerator a = true) ∧
    ∃ a ∈ attributes, isGeneratedDefault a = true ∧ defaultArgument? a = none

instance (attributes : List (List Char)) : Decidable (Torn attributes) := inferInstanceAs (Decidable (_ ∧ _))

theorem generatedBy_perm (h : attributes.Perm attributes') (hone : attributes.countP isGeneratedDefault ≤ 1) :
    (declaredField name rawType attributes).generatedBy = (declaredField name rawType attributes').generatedBy := by
  simp only [declaredField, ← List.head?_filter, filter_eq_of_perm h hone]

theorem default_perm (h : attributes.Perm attributes') (hone : attributes.countP writesDefault ≤ 1) :
    (declaredField name rawType attributes).default = (declaredField name rawType attributes').default := by
  -- a default that is not closed gives nothing
  have hclosed : ∀ list : List (List Char), (list.filter isLiteralDefault).findSome? defaultArgument? =
      (list.filter writesDefault).findSome? defaultArgument? := by
    intro list
    induction list with
    | nil => rfl
    | cons a list ih =>
      cases hliteral : isLiteralDefault a <;> cases hargument : defaultArgument? a <;>
        simp [writesDefault, hliteral, hargument, ih]
  simp only [declaredField, hclosed, filter_eq_of_perm h hone]

/-- the order of the attributes decides nothing but the defaults -/
theorem declaredField_perm (name rawType : List Char) (h : attributes.Perm attributes') :
    { declaredField name rawType attributes with
        generatedBy := (declaredField name rawType attributes').generatedBy
        default := (declaredField name rawType attributes').default } = declaredField name rawType attributes' := by
  have hcontains : ∀ a, attributes.contains a = attributes'.contains a := fun a => by
    rw [Bool.eq_iff_iff, List.contains_iff_mem, List.contains_iff_mem, h.mem_iff]
  simp only [declaredField, hcontains]

theorem isGenerated_cons {a : List Char} (ha : isGeneratedDefault a = true) (rest : List (List Char)) :
    (declaredField name rawType (a :: rest)).isGenerated = (defaultArgument? a).isSome := by
  simp [declaredField, Field.isGenerated, ha]

/-- when all of them are closed, or none is, it is decided by any -/
theorem isGenerated_untorn (h : ¬Torn attributes) :
    (declaredField name rawType attributes).isGenerated = true ↔ ∃ a ∈ attributes, namesGenerator a = true := by
  simp only [declaredField, Field.isGenerated, Option.isSome_map]
  cases hfind : attributes.find? isGeneratedDefault with
  | none =>
    have hnone := List.find?_eq_none.1 hfind
    refine ⟨fun h => absurd h (by decide), ?_⟩
    rintro ⟨a, ha, hcloses⟩
    simp only [namesGenerator, Bool.and_eq_true] at hcloses
    exact absurd hcloses.1 (hnone a ha)
  | some first =>
    have hfirst := List.mem_of_find?_eq_some hfind
    have hgenerated : isGeneratedDefault first = true := List.find?_some hfind
    rw [Option.bind_some]
    constructor
    · exact fun hcloses => ⟨first, hfirst, by rw [namesGenerator, hgenerated, hcloses]; rfl⟩
    · intro hcloses
      by_contra hopen
      exact h ⟨hcloses, first, hfirst, hgenerated, by simpa using hopen⟩

theorem torn_perm (h : attributes.Perm attributes') : Torn attributes ↔ Torn attributes' := by
  simp only [Torn, h.mem_iff]

theorem isGenerated_perm (name rawType : List Char) (h : attributes.Perm attributes') (htorn : ¬Torn attributes) :
    (declaredField name rawType attributes).isGenerated = (declaredField name rawType attributes').isGenerated := by
  rw [Bool.eq_iff_iff, isGenerated_untorn htorn, isGenerated_untorn ((torn_perm h).not.1 htorn)]
  simp only [h.mem_iff]

/-- torn attributes declare a generated field in one order and no generated field in another -/
theorem isGenerated_torn (name rawType : List Char) (htorn : Torn attributes) (generated : Bool) :
    ∃ attributes', attributes.Perm attributes' ∧
      (declaredField name rawType attributes').isGenerated = generated := by
  obtain ⟨⟨a, ha, hcloses⟩, b, hb, hgenerated, hopen⟩ := htorn
  simp only [namesGenerator, Bool.and_eq_true] at hcloses
  cases generated with
  | true => exact ⟨a :: attributes.erase a, List.perm_cons_erase ha, (isGenerated_cons hcloses.1 _).trans hcloses.2⟩
  | false => exact ⟨b :: attributes.erase b, List.perm_cons_erase hb, by rw [isGenerated_cons hgenerated, hopen]; rfl⟩

end Permuted

/-! ## Lines with their attributes in another order -/

/-- readings of the same attributes in two orders: the same field apart from its defaults, the same clause, and the
attributes without a meaning in either order. With one generated default at most the field has the same generator, and
with one literal default at most the same default. Torn attributes apart, the field is generated in both or
in neither. -/
structure Reordered (attributes attributes' : List (List Char)) (l l' : FieldLine) : Prop where
  field : { l.field with generatedBy := l'.field.generatedBy, default := l'.field.default } = l'.field
  clause : l.clause = l'.clause
  others : l.others = attributes.filter (!isKnownAttribute ·)
  others' : l'.others = attributes'.filter (!isKnownAttribute ·)
  generatedBy : attributes.countP isGeneratedDefault ≤ 1 → l.field.generatedBy = l'.field.generatedBy
  default : attributes.countP writesDefault ≤ 1 → l.field.default = l'.field.default
  generated : ¬Torn attributes → l.field.isGenerated = l'.field.isGenerated ∧ l.field.isReadOnly = l'.field.isReadOnly

section Rearranged

variable {line line' name rawType : List Char} {attributes attributes' clause : List (List Char)}

theorem fieldOfParts_cases (name rawType : List Char) (text : Option (List Char)) :
    (∃ e, ∀ attributes, fieldOfParts name rawType attributes text = .error e) ∨
      ∃ clause, ∀ attributes,
        fieldOfParts name rawType attributes text = .ok (fieldLineOf name rawType clause attributes) := by
  unfold fieldOfParts
  by_cases hname : isIdentifier name = true
  · simp only [hname, if_true]
    cases hclause : text.mapM readClause with
    | error e => exact Or.inl ⟨e, fun _ => rfl⟩
    | ok clause => exact Or.inr ⟨clause, fun _ => rfl⟩
  · simp only [hname]
    exact Or.inl ⟨_, fun _ => rfl⟩

theorem isRelation_declaredField (name rawType : List Char) (attributes : List (List Char)) :
    (declaredField name rawType attributes).isRelation = (Scalar.ofName? (stripMarkers rawType)).isNone := by
  simp [declaredField, Field.isRelation, Field.scalar?]

theorem fieldLineOf_perm (name rawType : List Char) (clause : Option Clause) (h : attributes.Perm attributes') :
    Reordered attributes attributes' (fieldLineOf name rawType clause attributes)
      (fieldLineOf name rawType clause attributes') where
  field := declaredField_perm name rawType h
  clause := by simp only [fieldLineOf, isRelation_declaredField]
  others := rfl
  others' := rfl
  generatedBy := generatedBy_perm h
  default := default_perm h
  generated htorn := by
    have hgenerated := isGenerated_perm name rawType h htorn
    have hfield := declaredField_perm name rawType h
    have hcreated := congrArg Field.isCreatedAt hfield
    have hupdated := congrArg Field.isUpdatedAt hfield
    simp only at hcreated hupdated
    refine ⟨hgenerated, ?_⟩
    simp only [fieldLineOf, Field.isReadOnly, hgenerated, hcreated, hupdated]

/-- torn attributes give the other answer in another order -/
theorem fieldLineOf_torn (name rawType : List Char) (clause : Option Clause) (h : Torn attributes) :
    ∃ attributes', attributes.Perm attributes' ∧
      (fieldLineOf name rawType clause attributes').field.isGenerated ≠
        (fieldLineOf name rawType clause attributes).field.isGenerated ∧
      ((fieldLineOf name rawType clause attributes).field.isCreatedAt = false →
        (fieldLineOf name rawType clause attributes).field.isUpdatedAt = false →
        (fieldLineOf name rawType clause attributes').field.isReadOnly ≠
          (fieldLineOf name rawType clause attributes).field.isReadOnly) := by
  obtain ⟨attributes', hperm, hgenerated⟩ := isGenerated_torn name rawType h
    (!(declaredField name rawType attributes).isGenerated)
  have hfield := declaredField_perm name rawType hperm
  have hcreated := congrArg Field.isCreatedAt hfield
  have hupdated := congrArg Field.isUpdatedAt hfield
  simp only at hcreated hupdated
  refine ⟨attributes', hperm, by simp [fieldLineOf, hgenerated], fun hnotCreated hnotUpdated => ?_⟩
  simp only [fieldLineOf] at hnotCreated hnotUpdated
  simp [fieldLineOf, Field.isReadOnly, hgenerated, ← hcreated, ← hupdated, hnotCreated, hnotUpdated]

/-- the tokens of a line make up a line in any other order, with a space between them -/
theorem Arranged.reorder (h : Arranged line name rawType attributes clause) (hperm : attributes.Perm attributes') :
    ∃ line', Arranged line' name rawType attributes' clause := by
  obtain ⟨⟨before, after, rfl, htokens⟩, hplain, hclause⟩ := h
  have hspec := tokens?_spec htokens
  have hparts : ∀ t ∈ name :: rawType :: (attributes' ++ clause), IsToken t ∧ Clean t := by
    intro t ht
    have hmem : t ∈ name :: rawType :: (before ++ clause ++ after) := by
      simp only [List.mem_cons, List.mem_append, ← hperm.mem_iff] at ht ⊢
      tauto
    obtain ⟨htoken, -, hcomment⟩ := hspec t hmem
    exact ⟨htoken, htoken.clean (hcomment (noComment_codeOf line))⟩
  have hclean := clean_joinTokens fun t ht => (hparts t ht).2
  refine ⟨joinTokens (name :: rawType :: (attributes' ++ clause)),
    ⟨attributes', [], (List.append_nil _).symm, ?_⟩, fun t ht => hplain t (hperm.mem_iff.2 ht), hclause⟩
  rw [codeOf, splitComment_clean hclean, List.append_nil]
  exact tokens?_joinTokens fun t ht => (hparts t ht).1

/-- **Attributes in another order.** In whatever order the attributes stand and wherever the clause stands among them, a
line is refused for the same reason, or it is read as the same field line apart from its defaults (`Reordered`). The
order decides whether the field is generated exactly when the attributes are torn: then some order gives the other
answer, and with it the other answer to whether the field is read-only, unless a time stamp makes it so. -/
theorem readField_rearranged (h : Arranged line name rawType attributes clause) :
    (∀ line' attributes', Arranged line' name rawType attributes' clause → attributes.Perm attributes' →
      (∃ e, readField line = .error e ∧ readField line' = .error e) ∨
        ∃ l l', readField line = .ok l ∧ readField line' = .ok l' ∧ Reordered attributes attributes' l l') ∧
    ∀ l, readField line = .ok l → Torn attributes →
      ∃ line' attributes' l', Arranged line' name rawType attributes' clause ∧ attributes.Perm attributes' ∧
        readField line' = .ok l' ∧ l'.field.isGenerated ≠ l.field.isGenerated ∧
        (l.field.isCreatedAt = false → l.field.isUpdatedAt = false → l'.field.isReadOnly ≠ l.field.isReadOnly) := by
  rcases fieldOfParts_cases name rawType (clauseText clause) with ⟨e, herror⟩ | ⟨read, hread⟩
  · have hrefused : ∀ {line attributes}, Arranged line name rawType attributes clause → readField line = .error e :=
      fun h => h.readField.trans (herror _)
    refine ⟨fun line' attributes' h' _ => Or.inl ⟨e, hrefused h, hrefused h'⟩, fun l hl => ?_⟩
    rw [hrefused h] at hl
    cases hl
  · have hok : ∀ {line attributes}, Arranged line name rawType attributes clause →
        readField line = .ok (fieldLineOf name rawType read attributes) := fun h => h.readField.trans (hread _)
    refine ⟨fun line' attributes' h' hperm => Or.inr ⟨_, _, hok h, hok h', fieldLineOf_perm name rawType read hperm⟩,
      fun l hl htorn => ?_⟩
    rw [hok h] at hl
    cases hl
    obtain ⟨attributes', hperm, hother⟩ := fieldLineOf_torn name rawType read htorn
    obtain ⟨line', h'⟩ := h.reorder hperm
    exact ⟨line', attributes', _, h', hperm, hok h', hother⟩

end Rearranged

def tornLine : String :=
  "note User @map(\"n\") @default(dbgenerated(x @relation(\"A (b\", fields: [x]) @default(uuid())"

def tornLine' : String :=
  "note User @relation(\"A (b\",  fields: [x]) @default(uuid()) @default(dbgenerated(x @map(\"n\")"

/-- the field is generated in the second order alone, and the theorem gives such an order for the first -/
theorem readField_rearranged_tornLine : ∃ attributes attributes' clause,
    Arranged tornLine.toList "note".toList "User".toList attributes clause ∧
    Arranged tornLine'.toList "note".toList "User".toList attributes' clause ∧ attributes.Perm attributes' ∧
    Torn attributes ∧
    ∃ l l', readField tornLine.toList = .ok l ∧ readField tornLine'.toList = .ok l' ∧
      Reordered attributes attributes' l l' ∧
      l.field.isReadOnly = false ∧ l'.field.isReadOnly = true ∧
      ∃ line'' l'', readField line'' = .ok l'' ∧ l''.field.isReadOnly = true := by
  have hclause : IsClause ["@relation(\"A (b\",".toList, "fields:".toList, "[x])".toList] := by
    have hquoted : Parenthesized ('"' :: ("A (b".toList ++ '"' :: ", fields: [x]".toList)) :=
      .literal (by decide) (by decide) (parenthesized_plain (by decide +kernel))
    exact ⟨[], _, Or.inl rfl, hquoted, by decide +kernel⟩
  have h : Arranged tornLine.toList "note".toList "User".toList
      ["@map(\"n\")".toList, "@default(dbgenerated(x".toList, "@default(uuid())".toList] _ :=
    ⟨⟨["@map(\"n\")".toList, "@default(dbgenerated(x".toList], ["@default(uuid())".toList], rfl, by decide +kernel⟩,
      by decide +kernel, Or.inr hclause⟩
  have h' : Arranged tornLine'.toList "note".toList "User".toList
      ["@default(uuid())".toList, "@default(dbgenerated(x".toList, "@map(\"n\")".toList] _ :=
    ⟨⟨[], _, rfl, by decide +kernel⟩, by decide +kernel, Or.inr hclause⟩
  have hperm : ["@map(\"n\")".toList, "@default(dbgenerated(x".toList, "@default(uuid())".toList].Perm
      ["@default(uuid())".toList, "@default(dbgenerated(x".toList, "@map(\"n\")".toList] := by decide +kernel
  have htorn : Torn ["@map(\"n\")".toList, "@default(dbgenerated(x".toList, "@default(uuid())".toList] := by
    decide +kernel
  obtain ⟨hsame, hother⟩ := readField_rearranged h
  have hread : ((readField tornLine.toList).toOption.map (·.field.isReadOnly),
      (readField tornLine'.toList).toOption.map (·.field.isReadOnly)) = (some false, some true) := by decide +kernel
  rcases hsame _ _ h' hperm with ⟨e, he, -⟩ | ⟨l, l', hl, hl', hreordered⟩
  · rw [he] at hread
    cases hread
  · rw [hl, hl'] at hread
    simp only [Except.toOption, Option.map_some, Prod.mk.injEq, Option.some.injEq] at hread
    obtain ⟨line'', -, l'', -, -, hl'', hgenerated, -⟩ := hother l hl htorn
    refine ⟨_, _, _, h, h', hperm, htorn, l, l', hl, hl', hreordered, hread.1, hread.2, line'', l'', hl'', ?_⟩
    have hnot : l.field.isGenerated = false := by
      have hreadOnly := hread.1
      simp only [Field.isReadOnly, Bool.or_eq_false_iff] at hreadOnly
      exact hreadOnly.1.1
    have hgenerated'' : l''.field.isGenerated = true := by simpa [hnot] using hgenerated
    rw [Field.isReadOnly, hgenerated'']
    rfl

/-- The same two attributes make the field read-only in one order and not in the other. -/
theorem readField_inOrder_unclosed :
    ["@default(dbgenerated(x".toList, "@default(uuid())".toList].Perm
      ["@default(uuid())".toList, "@default(dbgenerated(x".toList] ∧
    ∃ l l', readField "a String @default(dbgenerated(x @default(uuid())".toList = .ok l ∧
      readField "a String @default(uuid()) @default(dbgenerated(x".toList = .ok l' ∧
      l.field.isGenerated = false ∧ l.field.isReadOnly = false ∧ l'.field.isGenerated = true ∧
      l'.field.isReadOnly = true :=
  ⟨by decide +kernel, ⟨⟨"a", "String", false, false, false, false, none, none, .none⟩, none, []⟩,
    ⟨⟨"a", "String", false, false, false, false, some "uuid()", none, .none⟩, none, []⟩,
    by decide +kernel, by decide +kernel, rfl, rfl, rfl, rfl⟩

end EntityScaffold.Line

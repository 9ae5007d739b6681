import EntityScaffold.Proofs.PrintedLine
import EntityScaffold.Proofs.Steady

/-!
What formatting keeps of a field line. Every attribute of the line still stands in the formatted line, apart from
defaults that the field has no room for (`Kept`), and on a relation field every argument of the clause that the reader
knows is written again (`KeepsArguments`). Whatever the clause looks like once it is written, the attributes stand
before it, outside literals and comments (`Stands`). `format_keeps` says this of every field line of a document.
-/

namespace EntityScaffold.Line

open Text

/-! ## Attributes that are kept -/

/-- the attributes of a field line, in the order of the line, without the clause -/
def attributeTokens (line : List Char) : List (List Char) :=
  match tokens? (codeOf line) with
  | some (_ :: _ :: rest) => (splitAttributes rest).1
  | _ => []

/-- the relation clause of a field line -/
def clauseText? (line : List Char) : Option (List Char) :=
  match tokens? (codeOf line) with
  | some (_ :: _ :: rest) => (splitAttributes rest).2.map joinTokens
  | _ => none

/-- attributes that a field or its field line has room for: all but defaults, the default of creation, the first
generated default when it is closed, and the first literal default that is closed -/
inductive Kept (attributes : List (List Char)) : List Char → Prop
  | plain {a : List Char} (h : a ∈ attributes) (hdefault : defaultOpening.isPrefixOf a = false) : Kept attributes a
  | created (h : createdAttribute ∈ attributes) : Kept attributes createdAttribute
  | generated {before after : List (List Char)} {argument : List Char}
      (h : attributes = before ++ defaultAttribute argument :: after)
      (hgenerated : isGeneratedDefault (defaultAttribute argument) = true)
      (hfirst : ∀ a ∈ before, isGeneratedDefault a = false) : Kept attributes (defaultAttribute argument)
  | literal {before after : List (List Char)} {argument : List Char}
      (h : attributes = before ++ defaultAttribute argument :: after)
      (hliteral : isLiteralDefault (defaultAttribute argument) = true)
      (hfirst : ∀ a ∈ before, isLiteralDefault a = true → ∀ argument', a ≠ defaultAttribute argument') :
      Kept attributes (defaultAttribute argument)

/-- **Kept attributes are written**: with the properties of the field, or among the others. -/
theorem Kept.written {name rawType : List Char} {attributes : List (List Char)} {a : List Char}
    (h : Kept attributes a) : a ∈ rewritten name rawType attributes := by
  have hflag : ∀ {attr}, attr ∈ attributes → attributes.contains attr = true := fun hm => List.contains_iff_mem.2 hm
  cases h with
  | plain hm hdefault =>
    by_cases hknown : isKnownAttribute a = true
    · refine List.mem_append_left _ (mem_fieldAttributes.2 ?_)
      simp only [isKnownAttribute, hdefault, Bool.or_false, Bool.or_eq_true, decide_eq_true_eq] at hknown
      rcases hknown with (rfl | rfl) | rfl
      · exact Or.inl ⟨hflag hm, rfl⟩
      · exact Or.inr (Or.inl ⟨hflag hm, rfl⟩)
      · exact Or.inr (Or.inr (Or.inr (Or.inr (Or.inr ⟨hflag hm, rfl⟩))))
    · exact List.mem_append_right _ (List.mem_filter.2 ⟨hm, by simp [hknown]⟩)
  | created hm =>
    exact List.mem_append_left _ (mem_fieldAttributes.2 (Or.inr (Or.inr (Or.inr (Or.inl ⟨hflag hm, rfl⟩)))))
  | @generated before after argument hsplit hgenerated hfirst =>
    have hfind : attributes.find? isGeneratedDefault = some (defaultAttribute argument) := by
      have hnone : before.find? isGeneratedDefault = none := by
        rw [List.find?_eq_none]
        intro b hb
        simp [hfirst b hb]
      rw [hsplit, List.find?_append, hnone, Option.none_or, List.find?_cons_of_pos hgenerated]
    have hgen : (declaredField name rawType attributes).generatedBy = some (String.ofList argument) := by
      simp [declaredField, hfind, defaultArgument?_eq_some.2 rfl]
    refine List.mem_append_left _ (mem_fieldAttributes.2 (Or.inr (Or.inr (Or.inl ⟨_, hgen, ?_⟩))))
    rw [String.toList_ofList]
  | @literal before after argument hsplit hliteral hfirst =>
    have hfind : (attributes.filter isLiteralDefault).findSome? defaultArgument? = some argument := by
      have hnone : (before.filter isLiteralDefault).findSome? defaultArgument? = none := by
        rw [List.findSome?_eq_none_iff]
        intro b hb
        obtain ⟨hmem, hlit⟩ := List.mem_filter.1 hb
        by_contra hne
        obtain ⟨argument', hargument⟩ := Option.ne_none_iff_exists'.1 hne
        exact hfirst b hmem hlit argument' (defaultArgument?_eq_some.1 hargument)
      rw [hsplit, List.filter_append, List.filter_cons_of_pos hliteral, List.findSome?_append, hnone, Option.none_or,
        List.findSome?_cons, defaultArgument?_eq_some.2 rfl]
    have hlit : (declaredField name rawType attributes).default = some (String.ofList argument) := by
      simp [declaredField, hfind]
    refine List.mem_append_left _ (mem_fieldAttributes.2 (Or.inr (Or.inr (Or.inr (Or.inr (Or.inl ⟨_, hlit, ?_⟩))))))
    rw [String.toList_ofList]

/-! ## Arguments that are kept -/

/-- the text is written among the arguments of a clause -/
def ArgumentOf (argument clause : List Char) : Prop := ∃ before after,
  clause = relationMarker ++ '(' :: (List.intercalate ", ".toList (before ++ argument :: after) ++ [')'])

/-- the value of an argument: it follows the first place of its key, and that place stands outside quotes -/
structure Given (key args value : List Char) : Prop where
  keyed : Keyed key args value
  outside : ∃ front, args = front ++ value ∧ front.count '"' % 2 = 0

/-- every argument that has a key of the reader is written again: the name, the lists that are not empty, the actions -/
structure KeepsArguments (args written : List Char) : Prop where
  name : ∀ name rest, '"' ∉ name → args = '"' :: (name ++ '"' :: rest) → ArgumentOf ('"' :: (name ++ ['"'])) written
  keyedName : ∀ gap name rest, args.head? ≠ some '"' → Given "name".toList args (gap ++ '"' :: (name ++ '"' :: rest)) →
    (∀ c ∈ gap, isBlank c = true) → '"' ∉ name → ArgumentOf ('"' :: (name ++ ['"'])) written
  list : ∀ (key : ListKey) gap text rest, Given key.word.toList args (gap ++ '[' :: (text ++ ']' :: rest)) →
    (∀ c ∈ gap, isBlank c = true) → ']' ∉ text → listEntries text ≠ [] →
    ArgumentOf (key.word.toList ++ ": [".toList ++
      (List.intercalate ", ".toList ((listEntries text).map String.toList) ++ [']'])) written
  action : ∀ key ∈ ["onDelete", "onUpdate"], ∀ value, Given key.toList args value →
    trim (value.takeWhile fun c => c ≠ ',' && c ≠ ')') ≠ [] →
    ArgumentOf (key.toList ++ ": ".toList ++ trim (value.takeWhile fun c => c ≠ ',' && c ≠ ')')) written

theorem argumentOf_written {c : Clause} {argument : List Char} (h : argument ∈ c.arguments) :
    ArgumentOf argument c.written := by
  obtain ⟨before, after, hsplit⟩ := List.append_of_mem h
  refine ⟨before, after, ?_⟩
  rw [written_eq_clauseOf, clauseOf_of_ne_nil (List.ne_nil_of_mem h), hsplit]

/-- **A clause that is read keeps its arguments.** -/
theorem readClause_keeps {text : List Char} {c : Clause} (h : readClause text = .ok c) :
    KeepsArguments (clauseArguments text) c.written := by
  obtain ⟨-, fields, references, hfields, hreferences, hc⟩ := readClause_ok h
  generalize clauseArguments text = args at hfields hreferences hc
  have hname : ∀ n, clauseName? args = some n → ArgumentOf ('"' :: (n.toList ++ ['"'])) c.written := by
    intro n hn
    refine argumentOf_written ?_
    simp [arguments_eq, hc, hn, nameArgument]
  have hlist : ∀ key names, bracketList key args = .ok names → names ≠ [] →
      ArgumentOf (key.word.toList ++ ": [".toList ++
        (List.intercalate ", ".toList (names.map String.toList) ++ [']'])) c.written := by
    intro key names hnames hne
    refine argumentOf_written ?_
    cases key with
    | fields =>
      obtain rfl := Except.ok.inj (hnames.symm.trans hfields)
      simp [arguments_eq, hc, listArgument, hne]
    | references =>
      obtain rfl := Except.ok.inj (hnames.symm.trans hreferences)
      simp [arguments_eq, hc, listArgument, hne]
  have haction : ∀ key ∈ ["onDelete", "onUpdate"], ∀ v, keyValue? key args = some v →
      ArgumentOf (key.toList ++ ": ".toList ++ v.toList) c.written := by
    intro key hkey v hv
    refine argumentOf_written ?_
    rcases List.mem_pair.1 hkey with rfl | rfl
    · simp [arguments_eq, hc, hv, valueArgument]
    · simp [arguments_eq, hc, hv, valueArgument]
  exact {
    name := fun name rest hquote hargs => by
      simpa using hname _ (clauseName?_quoted hquote hargs)
    keyedName := fun gap name rest hhead hgiven hgap hquote => by
      simpa using hname _ (clauseName?_keyed hhead hgiven.keyed hgap hquote)
    list := fun key gap text rest hgiven hgap htext hne => hlist key _ (bracketList_keyed hgiven.keyed hgap htext) hne
    action := fun key hkey value hgiven hvalue => by
      have hne : key.toList ≠ [] := by rcases List.mem_pair.1 hkey with rfl | rfl <;> decide
      simpa using haction key hkey _ (keyValue?_keyed hne hgiven.keyed hvalue) }

/-! ## Texts that stand in a line -/

/-- the text stands in a line between blanks, outside literals and before any comment -/
def Stands (line text : List Char) : Prop := ∃ before after, line = before ++ (text ++ after) ∧ Clean before ∧
  (∀ c, before.getLast? = some c → isBlank c = true) ∧ ∀ c, after.head? = some c → isBlank c = true

theorem Stands.mem_tokens {line token : List Char} (h : Stands line token) (htoken : IsToken token)
    (hclean : Clean token) {tokens : List (List Char)} (htokens : tokens? (codeOf line) = some tokens) :
    token ∈ tokens := by
  obtain ⟨before, after, rfl, hbefore, hlast, hafter⟩ := h
  have hboth : Clean (before ++ token) := by
    refine hbefore.append hclean fun hslash => ?_
    exact absurd (hlast '/' hslash) (by decide)
  have hread : ∃ lead, tokens? (before ++ token) = some (lead ++ [token]) := by
    rcases List.eq_nil_or_concat' before with rfl | ⟨init, c, rfl⟩
    · exact ⟨[], htoken.tokens?⟩
    · have hblank : isBlank c = true := hlast c List.getLast?_concat
      have hplace : placeAfter .code init = .code :=
        placeAfter_eq_code_of_blanks (List.forall_mem_singleton.2 hblank)
          (by rw [← placeAfter_append]; exact hbefore.place)
      obtain ⟨lead, hlead⟩ := tokens?_isSome hplace
      refine ⟨lead, ?_⟩
      rw [List.append_assoc, List.singleton_append, tokens?_append_blank hplace hblank, hlead, htoken.tokens?]
      rfl
  obtain ⟨lead, hlead⟩ := hread
  cases after with
  | nil =>
    rw [List.append_nil] at htokens
    have hcode : codeOf (before ++ token) = before ++ token := congrArg Prod.fst (splitComment_clean hboth)
    rw [hcode, hlead] at htokens
    cases htokens
    exact List.mem_append_right _ (List.mem_singleton_self token)
  | cons c after =>
    have hblank : isBlank c = true := hafter c rfl
    have hgap : ∀ d ∈ [c], isBlank d = true := List.forall_mem_singleton.2 hblank
    have hcode : codeOf (before ++ (token ++ c :: after)) = before ++ token ++ c :: codeOf after := by
      have hsplit := splitComment_append (b := after) (hboth.append_blanks hgap)
        (append_blanks_last hgap (List.cons_ne_nil c []))
      have htext : before ++ (token ++ c :: after) = before ++ token ++ [c] ++ after := by simp
      rw [htext, codeOf, hsplit]
      simp
    rw [hcode, tokens?_append_blank hboth.place hblank, hlead] at htokens
    obtain ⟨rest, -, rfl⟩ := Option.map_eq_some_iff.1 htokens
    exact List.mem_append_left _ (List.mem_append_right _ (List.mem_singleton_self token))

/-- a text among joined texts has a space on each side where another text follows or comes before -/
theorem joinTokens_around (before : List (List Char)) (text : List Char) (after : List (List Char))
    (hbefore : ∀ t ∈ before, Clean t) : ∃ lead trail, joinTokens (before ++ text :: after) = lead ++ (text ++ trail) ∧
      Clean lead ∧ (∀ c, lead.getLast? = some c → isBlank c = true) ∧ ∀ c, trail.head? = some c → isBlank c = true := by
  have hspace : ∀ c, some ' ' = some c → isBlank c = true := fun c hc => Option.some.inj hc ▸ by decide
  have htrail : ∃ trail, joinTokens (text :: after) = text ++ trail ∧ ∀ c, trail.head? = some c → isBlank c = true := by
    by_cases hafter : after = []
    · subst hafter
      exact ⟨[], by simp, nofun⟩
    · exact ⟨' ' :: joinTokens after, joinTokens_cons hafter, hspace⟩
  obtain ⟨trail, hjoin, htrail⟩ := htrail
  by_cases hnil : before = []
  · subst hnil
    exact ⟨[], trail, by simpa using hjoin, clean_nil, nofun, htrail⟩
  · refine ⟨joinTokens before ++ [' '], trail, ?_, (clean_joinTokens hbefore).append_blanks space_blank, ?_, htrail⟩
    · rw [joinTokens_append hnil (List.cons_ne_nil _ _), hjoin, List.append_assoc, List.singleton_append]
    · rw [List.getLast?_concat]
      exact hspace

end EntityScaffold.Line

namespace EntityScaffold.Document

open Text Line

section Row

variable {line : List Char} {l : FieldLine}

theorem row_stands (h : readField line = .ok l) (widths : List Nat) {before after : List (List Char)} {text : List Char}
    (hsplit : l.attributes = before ++ text :: after) (hbefore : ∀ t ∈ before, Clean t) (htext : text ≠ []) :
    Stands (layEntry widths (.row (rowCells l (trailing line)))) text := by
  obtain ⟨gap₁, gap₂, gap₃, hrow⟩ := fieldRow h widths (trailing line)
  obtain ⟨lead, trail, hjoin, hlead, hlast, htrail⟩ := joinTokens_around before text after hbefore
  have htail : l.tail = lead ++ (text ++ trail) := by rw [FieldLine.tail, hsplit, hjoin]
  have hne : l.tail ≠ [] := by
    rw [htail]
    exact List.append_ne_nil_of_right_ne_nil _ (List.append_ne_nil_of_left_ne_nil htext _)
  have hhead := hrow.head_clean (name_piece h).clean (type_piece h).clean
  have hgap : ∀ c, (indent ++ l.field.name.toList ++ gap₁ ++ l.field.rawType.toList ++ gap₂).getLast? = some c →
      isBlank c = true := by
    intro c hc
    rw [List.getLast?_append_of_ne_nil _ (hrow.apart₂ hne)] at hc
    exact hrow.blanks₂ c (List.mem_of_getLast? hc)
  refine ⟨indent ++ l.field.name.toList ++ gap₁ ++ l.field.rawType.toList ++ gap₂ ++ lead,
    trail ++ (gap₃ ++ trailing line), ?_, ?_, ?_, ?_⟩
  · rw [hrow.eq, htail]
    simp only [List.append_assoc]
  · refine hhead.append hlead fun hslash => ?_
    exact absurd (hgap '/' hslash) (by decide)
  · intro c hc
    by_cases hnil : lead = []
    · rw [hnil, List.append_nil] at hc
      exact hgap c hc
    · rw [List.getLast?_append_of_ne_nil _ hnil] at hc
      exact hlast c hc
  · intro c hc
    cases trail with
    | cons d trail => exact htrail c hc
    | nil =>
      by_cases hcomment : trailing line = []
      · rw [hrow.close₃ hcomment, hcomment] at hc
        cases hc
      · obtain ⟨d, gap, hd⟩ := List.exists_cons_of_ne_nil (hrow.apart₃ hcomment)
        rw [hd] at hc
        exact hrow.blanks₃ c (by rw [hd, ← Option.some.inj hc]; exact List.mem_cons_self)

/-- **A row keeps its attributes**, whatever its clause looks like. -/
theorem row_attribute (h : readField line = .ok l) (widths : List Nat) {a : List Char}
    (ha : a ∈ fieldAttributes l.field ++ l.others) :
    Stands (layEntry widths (.row (rowCells l (trailing line)))) a := by
  obtain ⟨before, after, hsplit⟩ := List.append_of_mem ha
  have hattributes : l.attributes = before ++ a :: (after ++ (l.clause.map Clause.written).toList) := by
    rw [FieldLine.attributes, hsplit, List.append_assoc, List.cons_append]
  refine row_stands h widths hattributes (fun t ht => ?_) (attribute_piece h ha).token.1
  exact (attribute_piece h (hsplit ▸ List.mem_append_left _ ht)).clean

theorem row_clause (h : readField line = .ok l) (widths : List Nat) {c : Clause} (hc : l.clause = some c) :
    Stands (layEntry widths (.row (rowCells l (trailing line)))) c.written := by
  have hattributes : l.attributes = (fieldAttributes l.field ++ l.others) ++ c.written :: [] := by
    rw [FieldLine.attributes, hc]
    rfl
  exact row_stands h widths hattributes (fun t ht => (attribute_piece h ht).clean) (written_tight c).1

end Row

/-! ## Documents -/

theorem format_reads {source text : String} (h : format source = .ok text) : ∃ o, read false source = .ok o := by
  unfold format at h
  cases hr : read false source with
  | error e => rw [hr] at h; cases h
  | ok o => exact ⟨o, rfl⟩

/-- a field line inside a model is read, and its row stands at the same place of the formatted text -/
theorem format_row {source text : String} (h : format source = .ok text) {before after : List (List Char)}
    {line : List Char} (hlines : splitLines source.toList = before ++ line :: after)
    (hinside : before.foldl insideAfter false = true) (hfield : shape line = .field) :
    ∃ l widths before' after', readField line = .ok l ∧ before'.length = before.length ∧
      splitLines text.toList = before' ++ layEntry widths (.row (rowCells l (trailing line))) :: after' := by
  obtain ⟨o, hread⟩ := format_reads h
  obtain rfl : canonical source = text := Except.ok.inj ((format_laid hread).symm.trans h)
  obtain ⟨l, hl⟩ := read_reads hread line (hlines ▸ mem_modelFields_of_inside hinside hfield)
  obtain ⟨before', columns, after', hlaid, hlength, hcolumns⟩ := laid_split before line after none
  rw [← hlines, ← splitLines_canonical hread] at hlaid
  have hsome : columns.isSome = true := hcolumns.trans hinside
  obtain ⟨widths, rfl⟩ := Option.isSome_iff_exists.1 hsome
  have hstays : StaysInBlock line := ⟨by simp [hfield], by simp [hfield]⟩
  rw [hstays.laidLine_some, entryOf_field hfield hl] at hlaid
  exact ⟨l, widths, before', after', hl, hlength, hlaid⟩

/-- **Formatting keeps what is written on a field line.** In every document that can be formatted, each field line
inside a model has its formatted line at the same place. The attributes that the field line has room for still stand
there as tokens, and on a relation field the clause stands there with every argument that its reader knows. -/
theorem format_keeps {source text : String} (h : format source = .ok text) {before after : List (List Char)}
    {line : List Char} (hlines : splitLines source.toList = before ++ line :: after)
    (hinside : before.foldl insideAfter false = true) (hfield : shape line = .field) :
    ∃ l before' out after', readField line = .ok l ∧ splitLines text.toList = before' ++ out :: after' ∧
      before'.length = before.length ∧
      (∀ a, Kept (attributeTokens line) a →
        Stands out a ∧ ∀ tokens, tokens? (codeOf out) = some tokens → a ∈ tokens) ∧
      (l.field.isRelation = true → ∀ clause, clauseText? line = some clause →
        ∃ written, Stands out written ∧ relationMarker <+: written ∧
          KeepsArguments (clauseArguments clause) written) := by
  obtain ⟨l, widths, before', after', hl, hlength, hlaid⟩ := format_row h hlines hinside hfield
  refine ⟨l, before', _, after', hl, hlaid, hlength, ?_, ?_⟩
  · intro a ha
    obtain ⟨name, rawType, rest, clause, htokens, -, -, hdeclared, -, hothers⟩ := readField_ok hl
    have hattributes : attributeTokens line = (splitAttributes rest).1 := by rw [attributeTokens, htokens]
    rw [hattributes] at ha
    have hmem : a ∈ fieldAttributes l.field ++ l.others := by
      rw [hdeclared, hothers]
      exact ha.written
    have hstands := row_attribute hl widths hmem
    have hpiece := attribute_piece hl hmem
    exact ⟨hstands, fun tokens hout => hstands.mem_tokens hpiece.token hpiece.clean hout⟩
  · intro hrelation clause hclause
    obtain ⟨name, rawType, rest, read, htokens, -, hread, -, hl', -⟩ := readField_ok hl
    rw [if_pos hrelation] at hl'
    simp only [clauseText?, htokens] at hclause
    obtain ⟨tokens, hsplit, rfl⟩ := Option.map_eq_some_iff.1 hclause
    rw [hsplit, Option.mapM_some] at hread
    cases hc : readClause (joinTokens tokens) with
    | error e => rw [hc] at hread; cases hread
    | ok c =>
      rw [hc] at hread
      cases hread
      obtain ⟨more, hmarker⟩ := written_marker c
      exact ⟨c.written, row_clause hl widths hl', ⟨more, hmarker.symm⟩, readClause_keeps hc⟩

/-- the arguments of a clause, the first with a key that the reader does not know -/
def mixedArguments : String := "map: \"k\", fields :[c]"

/-- a field line with more defaults than a field has room for -/
def crowdedLine : String := "  b B @x @default(1) @default(2) @relation(" ++ mixedArguments ++ ")"

def crowdedSource : String := "model A \x7b\n" ++ crowdedLine ++ "\n\x7d\n"

/-- the attributes of a field and the list of its clause stand in the formatted line -/
theorem format_keeps_crowdedSource : ∃ text out, format crowdedSource = .ok text ∧
    (splitLines text.toList)[1]? = some out ∧ (∀ a ∈ ["@x".toList, "@default(1)".toList], Stands out a) ∧
    ∃ written, Stands out written ∧ ArgumentOf "fields: [c]".toList written := by
  have hok : (format crowdedSource).toOption.isSome = true := by decide +kernel
  cases hformat : format crowdedSource with
  | error e => rw [hformat] at hok; cases hok
  | ok text =>
    have hlines : splitLines crowdedSource.toList =
        ["model A \x7b".toList] ++ crowdedLine.toList :: ["\x7d".toList] := by decide +kernel
    obtain ⟨l, before, out, after, hread, hout, hlength, hattributes, hclause⟩ :=
      format_keeps hformat hlines (by decide +kernel) (by decide +kernel)
    have hplace : (splitLines text.toList)[1]? = some out := by
      have hlast : before.length = 1 := hlength
      rw [hout, ← hlast, List.getElem?_append_right (le_refl _), Nat.sub_self]
      rfl
    have htokens : attributeTokens crowdedLine.toList =
        ["@x".toList] ++ defaultAttribute "1".toList :: ["@default(2)".toList] := by decide +kernel
    have hrelation : l.field.isRelation = true := by
      have hfield : (readField crowdedLine.toList).toOption.map (·.field.isRelation) = some true := by decide +kernel
      rw [hread] at hfield
      exact Option.some.inj hfield
    have htext : clauseText? crowdedLine.toList = some ("@relation(" ++ mixedArguments ++ ")").toList := by
      decide +kernel
    have harguments : clauseArguments ("@relation(" ++ mixedArguments ++ ")").toList = mixedArguments.toList := by
      decide +kernel
    obtain ⟨written, hwritten, -, hkeeps⟩ := hclause hrelation _ htext
    rw [harguments] at hkeeps
    have hfirst : ∀ a ∈ ["@x".toList], isLiteralDefault a = true → ∀ argument, a ≠ defaultAttribute argument := by
      intro a ha _ argument
      rw [List.mem_singleton.1 ha]
      exact defaultAttribute_ne (by decide)
    have hgiven : Given "fields".toList mixedArguments.toList "[c]".toList :=
      ⟨(afterKey?_eq_some (by decide)).1 (by decide +kernel), "map: \"k\", fields :".toList, by decide, by decide⟩
    refine ⟨text, out, rfl, hplace, ?_, written, hwritten, ?_⟩
    · intro a ha
      rcases List.mem_pair.1 ha with rfl | rfl
      · exact (hattributes _ (.plain (htokens ▸ by decide) (by decide))).1
      · exact (hattributes _ (.literal htokens (by decide) hfirst)).1
    · exact hkeeps.list .fields [] ['c'] [] hgiven (List.forall_mem_nil _) (by decide) (by decide)

/-- a document with a clause on a scalar field, and a clause with a key that the reader does not know -/
def foreignSource : String :=
  "model A \x7b\n  id Int @id @relation(fields: [id])\n  author User @relation(fields: [id], map: \"fk\")\n\x7d\n"

/-- Neither the clause of the scalar field nor the argument with the foreign key is written again. -/
theorem format_drops_foreignSource : ∃ text, format foreignSource = .ok text ∧
    splitLines text.toList = ["model A \x7b".toList, "  id     Int  @id".toList,
      "  author User @relation(fields: [id])".toList, "\x7d".toList] ∧
    clauseText? "  id Int @id @relation(fields: [id])".toList = some "@relation(fields: [id])".toList ∧
    clauseText? "  author User @relation(fields: [id], map: \"fk\")".toList =
      some "@relation(fields: [id], map: \"fk\")".toList ∧
    ¬"fields: [id]".toList <:+: "  id     Int  @id".toList ∧
    ¬"map: \"fk\"".toList <:+: "  author User @relation(fields: [id])".toList := by
  refine ⟨"model A \x7b\n  id     Int  @id\n  author User @relation(fields: [id])\n\x7d\n", ?_, ?_, ?_, ?_, ?_, ?_⟩
  all_goals decide +kernel

end EntityScaffold.Document

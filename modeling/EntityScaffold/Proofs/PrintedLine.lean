import EntityScaffold.Proofs.Row
import EntityScaffold.Proofs.WrittenClause

/-!
A field line printed and read. The parts of a line are its tokens however wide the blanks between them are
(`Spread.scan`), and the attributes written for a field declare it. So a line that is made of the name, the type and
the attributes of a field line reads as that field line (`readField_printed`).
-/

namespace EntityScaffold.Line

open Text

/-! ## Types as written -/

/-- how a type token ends -/
inductive Marker
  | single
  | list
  | optional
deriving DecidableEq, Repr

/-- the end of a type token as written -/
def Marker.text : Marker → List Char
  | .single => []
  | .list => ['[', ']']
  | .optional => ['?']

theorem isSuffixOf?_eq_none {suffix text : List Char} {c : Char} (hc : c ∈ suffix) (h : c ∉ text) :
    suffix.isSuffixOf? text = none := by
  by_contra hne
  obtain ⟨rest, hrest⟩ := Option.ne_none_iff_exists'.1 hne
  rw [List.isSuffixOf?_eq_some_iff_append_eq] at hrest
  exact h (hrest ▸ List.mem_append_right _ hc)

section Types

variable {base : List Char}

theorem stripMarkers_marked (h : IsWord base) (marker : Marker) : stripMarkers (base ++ marker.text) = base := by
  have hquestion : '?' ∉ base := h.not_mem (by decide)
  have hbracket : ']' ∉ base := h.not_mem (by decide)
  have hplain : ['[', ']'].isSuffixOf? base = none := isSuffixOf?_eq_none (by decide) hbracket
  unfold stripMarkers
  cases marker with
  | single =>
    have hsingle : ['?'].isSuffixOf? base = none := isSuffixOf?_eq_none (by decide) hquestion
    simp only [Marker.text, List.append_nil, hsingle, Option.getD_none, hplain]
  | list =>
    have hmissing : '?' ∉ base ++ ['[', ']'] := by simpa using hquestion
    have hsingle : ['?'].isSuffixOf? (base ++ ['[', ']']) = none := isSuffixOf?_eq_none (by decide) hmissing
    have hlist : ['[', ']'].isSuffixOf? (base ++ ['[', ']']) = some base := List.isSuffixOf?_eq_some_iff_append_eq.2 rfl
    simp only [Marker.text, hsingle, Option.getD_none, hlist, Option.getD_some]
  | optional =>
    have hsingle : ['?'].isSuffixOf? (base ++ ['?']) = some base := List.isSuffixOf?_eq_some_iff_append_eq.2 rfl
    simp only [Marker.text, hsingle, Option.getD_some, hplain, Option.getD_none]

theorem isSuffixOf_eq_false {suffix text : List Char} {c : Char} (hc : c ∈ suffix) (h : c ∉ text) :
    suffix.isSuffixOf text = false := by
  by_contra hne
  have hsuffix := List.isSuffixOf_iff_suffix.1 (Bool.not_eq_false _ ▸ hne)
  exact h (hsuffix.subset hc)

/-- a marker says whether the field is a list, and whether it must have a value -/
theorem marker_kind {f : Field} (h : IsWord base) {marker : Marker} (ht : f.rawType.toList = base ++ marker.text) :
    f.baseType = String.ofList base ∧ f.isList = decide (marker = .list) ∧
      f.isRequired = decide (marker ≠ .optional) := by
  have hquestion : '?' ∉ base := h.not_mem (by decide)
  have hbracket : ']' ∉ base := h.not_mem (by decide)
  refine ⟨by rw [Field.baseType, ht, stripMarkers_marked h], ?_, ?_⟩
  · rw [Field.isList, ht]
    cases marker with
    | single => exact isSuffixOf_eq_false (c := ']') (by decide) (by simpa [Marker.text] using hbracket)
    | list => exact List.isSuffixOf_iff_suffix.2 (List.suffix_append _ _)
    | optional => exact isSuffixOf_eq_false (c := ']') (by decide) (by simpa [Marker.text] using hbracket)
  · rw [Field.isRequired, ht]
    cases marker with
    | single =>
      rw [isSuffixOf_eq_false (c := '?') (by decide) (by simpa [Marker.text] using hquestion)]
      rfl
    | list =>
      rw [isSuffixOf_eq_false (c := '?') (by decide) (by simpa [Marker.text] using hquestion)]
      rfl
    | optional =>
      have hsuffix : ['?'].isSuffixOf (base ++ ['?']) = true :=
        List.isSuffixOf_iff_suffix.2 (List.suffix_append base ['?'])
      simp only [Marker.text, hsuffix]
      rfl

end Types

/-! ## A line of parts -/

/-- texts with blanks between them, as many as there may be -/
inductive Spread : List (List Char) → List Char → Prop
  | last (text : List Char) : Spread [text] text
  | more {pieces : List (List Char)} {rest : List Char} (text gap : List Char) (hgap : ∀ c ∈ gap, isBlank c = true)
      (hne : gap ≠ []) (hrest : Spread pieces rest) : Spread (text :: pieces) (text ++ gap ++ rest)

/-- **Parts are read one by one**, however wide the blanks between them are. -/
theorem Spread.scan {pieces : List (List Char)} {text : List Char} (h : Spread pieces text)
    (hpieces : ∀ piece ∈ pieces, Clean piece) :
    Clean text ∧ tokens? text = some (pieces.flatMap fun piece => (tokens? piece).getD []) := by
  have htokens : ∀ piece, Clean piece → tokens? piece = some ((tokens? piece).getD []) := by
    intro piece hclean
    obtain ⟨tokens, hread⟩ := tokens?_isSome hclean.place
    rw [hread, Option.getD_some]
  induction h with
  | last text =>
    have hclean := hpieces text List.mem_cons_self
    refine ⟨hclean, ?_⟩
    rw [List.flatMap_singleton]
    exact htokens text hclean
  | more text gap hgap hne hrest ih =>
    have hclean := hpieces text List.mem_cons_self
    obtain ⟨hcleanRest, hreadRest⟩ := ih fun piece hpiece => hpieces piece (List.mem_cons_of_mem _ hpiece)
    refine ⟨hclean.join hcleanRest hgap hne, ?_⟩
    rw [tokens?_append_blanks_append hclean.place hgap hne, htokens text hclean, hreadRest]
    rfl

/-- what may stand after the code of a line: blanks, and a comment that joins no slash at the end of the code -/
def IsTrailing (code tail : List Char) : Prop := ∃ gap comment, tail = gap ++ comment ∧ (∀ c ∈ gap, isBlank c = true) ∧
  Document.IsComment comment ∧ (comment ≠ [] → gap = [] → code.getLast? ≠ some '/')

/-- the code of a line without the comment after it -/
theorem codeOf_trailing {code tail : List Char} (hclean : Clean code) (h : IsTrailing code tail) :
    ∃ gap, codeOf (code ++ tail) = code ++ gap ∧ ∀ c ∈ gap, isBlank c = true := by
  obtain ⟨gap, comment, rfl, hgap, hcomment, happart⟩ := h
  refine ⟨gap, ?_, hgap⟩
  have hcode : Clean (code ++ gap) := hclean.append_blanks hgap
  rcases hcomment with rfl | ⟨rest, rfl⟩
  · rw [List.append_nil]
    exact congrArg Prod.fst (splitComment_clean hcode)
  · have hlast : (code ++ gap).getLast? ≠ some '/' := by
      by_cases hne : gap = []
      · rw [hne, List.append_nil]
        exact happart (List.cons_ne_nil _ _) hne
      · exact append_blanks_last hgap hne
    rw [← List.append_assoc, codeOf, splitComment_append hcode hlast, codeOf, Document.comment_split]
    exact List.append_nil _

/-! ## Field lines -/

/-- an attribute that is one token, without a comment in it -/
def IsAttribute (text : List Char) : Prop := IsToken text ∧ NoComment .code text

def IsGenerator (g : String) : Prop := g = "autoincrement()" ∨ g = "uuid()" ∨ g = "cuid()" ∨
  ∃ argument, g.toList = "dbgenerated(".toList ++ argument ++ [')'] ∧ IsAttribute (defaultAttribute g.toList)

/-- a field line that can be printed: every part of it is a token that reads as that part -/
structure FieldLine.Printable (l : FieldLine) (base : List Char) (marker : Marker) : Prop where
  name : isIdentifier l.field.name.toList = true
  word : isIdentifier base = true
  type : l.field.rawType.toList = base ++ marker.text
  generator : ∀ g, l.field.generatedBy = some g → IsGenerator g
  literal : ∀ v, l.field.default = some v →
    IsAttribute (defaultAttribute v.toList) ∧ isLiteralDefault (defaultAttribute v.toList) = true
  link : l.field.link = if (Scalar.ofName? base).isSome then .none else .implicit
  others : ∀ t ∈ l.others, IsAttribute t ∧ isKnownAttribute t = false ∧ startsClause t = false
  clause : ∀ c, l.clause = some c → Scalar.ofName? base = none ∧ c.Plain

/-- the line is the parts of the field line, with blanks around them and perhaps a comment -/
def FieldLine.PrintedAs (l : FieldLine) (line : List Char) : Prop := ∃ lead text tail, line = lead ++ (text ++ tail) ∧
  (∀ c ∈ lead, isBlank c = true) ∧
  Spread (l.field.name.toList :: l.field.rawType.toList :: l.attributes) text ∧ IsTrailing text tail

section Printed

variable {l : FieldLine} {base : List Char} {marker : Marker}

theorem IsAttribute.clean {text : List Char} (h : IsAttribute text) : Clean text := h.1.clean h.2

theorem IsGenerator.attribute {g : String} (h : IsGenerator g) :
    IsAttribute (defaultAttribute g.toList) ∧ isGeneratedDefault (defaultAttribute g.toList) = true := by
  have hfixed : ∀ word ∈ ["autoincrement()", "uuid()", "cuid()"],
      IsAttribute (defaultAttribute word.toList) ∧ isGeneratedDefault (defaultAttribute word.toList) = true := by
    unfold IsAttribute IsToken NoComment
    decide
  rcases h with rfl | rfl | rfl | ⟨argument, hg, hattribute⟩
  · exact hfixed _ (by decide)
  · exact hfixed _ (by decide)
  · exact hfixed _ (by decide)
  · refine ⟨hattribute, ?_⟩
    have hprefix : (defaultOpening ++ "dbgenerated(".toList) <+: defaultAttribute g.toList := by
      rw [hg, defaultAttribute]
      exact ⟨argument ++ [')'] ++ [')'], by simp⟩
    rw [isGeneratedDefault, List.isPrefixOf_iff_prefix.2 hprefix, Bool.or_true]

theorem flatMap_tokens {pieces : List (List Char)} (h : ∀ piece ∈ pieces, IsToken piece) :
    (pieces.flatMap fun piece => (tokens? piece).getD []) = pieces := by
  induction pieces with
  | nil => rfl
  | cons piece pieces ih =>
    rw [List.flatMap_cons, (h piece List.mem_cons_self).tokens?, ih fun x hx => h x (List.mem_cons_of_mem _ hx)]
    rfl

namespace FieldLine.Printable

theorem declared (h : l.Printable base marker) : Field.Declared l.field where
  generated g hg := (h.generator g hg).attribute.2
  literal v hv := (h.literal v hv).2

theorem isRelation (h : l.Printable base marker) : l.field.isRelation = (Scalar.ofName? base).isNone := by
  rw [Field.isRelation, Field.scalar?, h.type, stripMarkers_marked (isWord_of_isIdentifier h.word)]

theorem attributes (h : l.Printable base marker) : ∀ t ∈ fieldAttributes l.field ++ l.others,
    IsAttribute t ∧ startsClause t = false := by
  intro t ht
  rcases List.mem_append.1 ht with ht | ht
  · refine ⟨?_, startsClause_of_known (isKnownAttribute_of_mem ht)⟩
    have hfixed : ∀ a ∈ [idAttribute, uniqueAttribute, createdAttribute, updatedAttribute], IsAttribute a := by
      unfold IsAttribute IsToken NoComment
      decide
    rcases mem_fieldAttributes.1 ht with ⟨-, rfl⟩ | ⟨-, rfl⟩ | ⟨g, hg, rfl⟩ | ⟨-, rfl⟩ | ⟨v, hv, rfl⟩ | ⟨-, rfl⟩
    · exact hfixed _ (by decide)
    · exact hfixed _ (by decide)
    · exact (h.generator g hg).attribute.1
    · exact hfixed _ (by decide)
    · exact (h.literal v hv).1
    · exact hfixed _ (by decide)
  · exact ⟨(h.others t ht).1, (h.others t ht).2.2⟩

theorem words (h : l.Printable base marker) : IsAttribute l.field.name.toList ∧ IsAttribute l.field.rawType.toList := by
  have hname := isWord_of_isIdentifier h.name
  have hbase := isWord_of_isIdentifier h.word
  refine ⟨⟨hname.token, hname.even.clean.noComment⟩, ?_⟩
  rw [h.type]
  cases marker with
  | single =>
    rw [Marker.text, List.append_nil]
    exact ⟨hbase.token, hbase.even.clean.noComment⟩
  | list =>
    have htoken : IsToken ['[', ']'] := ⟨by decide, by decide⟩
    have hflat : Flat ['[', ']'] := flat_inert (by simp [IsInert])
    exact ⟨hbase.token.append htoken, (hbase.even.toFlat.append hflat).clean.noComment⟩
  | optional =>
    have htoken : IsToken ['?'] := ⟨by decide, by decide⟩
    have hflat : Flat ['?'] := flat_inert (by simp [IsInert])
    exact ⟨hbase.token.append htoken, (hbase.even.toFlat.append hflat).clean.noComment⟩

end FieldLine.Printable

/-- the tokens of a line do not depend on the blanks around its code and on its comment -/
theorem tokens?_codeOf {lead code tail : List Char} (hlead : ∀ c ∈ lead, isBlank c = true) (hclean : Clean code)
    (htail : IsTrailing code tail) : tokens? (codeOf (lead ++ (code ++ tail))) = tokens? code := by
  obtain ⟨gap, hcode, hgap⟩ := codeOf_trailing hclean htail
  have hsplit := splitComment_append (b := code ++ tail) (clean_blanks hlead) (blanks_last hlead)
  rw [codeOf, hsplit, hcode, tokens?_blanks_append hlead, tokens?_append_blanks hclean.place hgap]

theorem FieldLine.Printable.declaredBy (h : l.Printable base marker) :
    l.DeclaredBy (fieldAttributes l.field ++ l.others) where
  plain t ht := (h.attributes t ht).2
  field := by
    refine declaredField_fieldAttributes h.declared ?_ fun t ht => (h.others t ht).2.1
    rw [h.link, h.isRelation]
    cases Scalar.ofName? base <;> rfl
  others := by
    have hnone : (fieldAttributes l.field).filter (!isKnownAttribute ·) = [] :=
      List.filter_eq_nil_iff.2 fun a ha => by simp [isKnownAttribute_of_mem ha]
    have hall : l.others.filter (!isKnownAttribute ·) = l.others :=
      List.filter_eq_self.2 fun t ht => by simp [(h.others t ht).2.1]
    rw [List.filter_append, hnone, hall, List.nil_append]

/-- the parts of a printable field line stand whole in a line -/
theorem FieldLine.Printable.clean (h : l.Printable base marker) :
    ∀ piece ∈ l.field.name.toList :: l.field.rawType.toList :: l.attributes, Clean piece := by
  intro piece hpiece
  rcases List.mem_cons.1 hpiece with rfl | hpiece
  · exact h.words.1.clean
  rcases List.mem_cons.1 hpiece with rfl | hpiece
  · exact h.words.2.clean
  rcases List.mem_append.1 hpiece with hpiece | hpiece
  · exact (h.attributes piece hpiece).1.clean
  · obtain ⟨c, hc, rfl⟩ := Option.map_eq_some_iff.1 (Option.mem_toList.1 hpiece)
    exact (h.clause c hc).2.settled.clean

/-- **Reading undoes printing.** A line that is the name, the type and the attributes of a printable field line reads as
that field line, however its parts are spaced and whatever comment follows. -/
theorem readField_printed {line : List Char} (h : l.Printable base marker) (hline : l.PrintedAs line) :
    readField line = .ok l ∧ l.field.baseType = String.ofList base ∧ l.field.isList = decide (marker = .list) ∧
      l.field.isRequired = decide (marker ≠ .optional) := by
  refine ⟨?_, marker_kind (isWord_of_isIdentifier h.word) h.type⟩
  obtain ⟨lead, text, tail, rfl, hlead, hspread, htail⟩ := hline
  obtain ⟨hclean, htokens⟩ := hspread.scan h.clean
  have hcode := (tokens?_codeOf hlead hclean htail).trans htokens
  have hplain : ∀ piece ∈ l.field.name.toList :: l.field.rawType.toList :: (fieldAttributes l.field ++ l.others),
      IsToken piece := by
    intro piece hpiece
    simp only [List.mem_cons] at hpiece
    rcases hpiece with rfl | rfl | hpiece
    · exact h.words.1.1
    · exact h.words.2.1
    · exact (h.attributes piece hpiece).1.1
  rw [readField_of_tokens hcode]
  unfold FieldLine.attributes
  cases hc : l.clause with
  | none =>
    rw [Option.map_none, Option.toList_none, List.append_nil, flatMap_tokens hplain]
    exact h.declaredBy.reads h.name hc
  | some c =>
    obtain ⟨hscalar, hclause⟩ := h.clause c hc
    obtain ⟨written, hread⟩ := tokens?_isSome hclause.settled.clean.place
    have hrelation : l.field.isRelation = true := by rw [h.isRelation, hscalar]; rfl
    have hpieces : l.field.name.toList :: l.field.rawType.toList ::
        (fieldAttributes l.field ++ l.others ++ (some c.written).toList) =
        (l.field.name.toList :: l.field.rawType.toList :: (fieldAttributes l.field ++ l.others)) ++ [c.written] := by
      simp
    rw [Option.map_some, hpieces, List.flatMap_append, flatMap_tokens hplain, List.flatMap_singleton, hread]
    exact h.declaredBy.reads_clause h.name hc hrelation hclause.settled hread

end Printed

def textField : Field where
  name := "a"
  rawType := "String"
  isId := false
  isUnique := false
  isCreatedAt := false
  isUpdatedAt := false
  generatedBy := none
  default := none
  link := .none

def ownerLine : FieldLine where
  field := { textField with
    name := "o", rawType := "U?", isUnique := true, generatedBy := some "dbgenerated(\"a b\")",
    default := some "\"//\"", link := .implicit }
  clause := some ⟨some "(by) //", ["fields"], [], ⟨none, some "Cascade"⟩⟩
  others := ["@x".toList]

def ownerClause : String := "@relation(\"(by) //\", fields: [fields], onDelete: Cascade)"

def ownerText : String :=
  "\t o  U? @unique @default(dbgenerated(\"a b\")) @default(\"//\") @x  " ++ ownerClause ++ "// yes"

theorem readField_printed_ownerLine : ownerLine.Printable ['U'] .optional ∧ ownerLine.PrintedAs ownerText.toList ∧
    readField ownerText.toList = .ok ownerLine ∧ ownerLine.field.baseType = "U" ∧ ownerLine.field.isList = false ∧
    ownerLine.field.isRequired = false := by
  have hprintable : ownerLine.Printable ['U'] .optional := {
    name := by decide
    word := by decide
    type := by decide
    generator := by
      intro g hg
      obtain rfl := Option.some.inj hg
      refine Or.inr (Or.inr (Or.inr ⟨"\"a b\"".toList, by decide, ?_⟩))
      unfold IsAttribute IsToken NoComment
      decide
    literal := by
      intro v hv
      obtain rfl := Option.some.inj hv
      unfold IsAttribute IsToken NoComment
      decide
    link := by decide
    others := by
      unfold IsAttribute IsToken NoComment
      decide
    clause := by
      intro c hc
      obtain rfl := Option.some.inj hc
      refine ⟨by decide, ?_⟩
      constructor <;> decide }
  have hpieces : ownerLine.field.name.toList :: ownerLine.field.rawType.toList :: ownerLine.attributes =
      [['o'], "U?".toList, "@unique".toList, "@default(dbgenerated(\"a b\"))".toList, "@default(\"//\")".toList,
        "@x".toList, ownerClause.toList] := by decide
  have hgap : ∀ c ∈ [' ', ' '], isBlank c = true := List.forall_mem_cons.2 ⟨by decide, space_blank⟩
  have hspread := Spread.more ['o'] [' ', ' '] hgap (by decide) <|
    Spread.more "U?".toList [' '] space_blank (by decide) <|
    Spread.more "@unique".toList [' '] space_blank (by decide) <|
    Spread.more "@default(dbgenerated(\"a b\"))".toList [' '] space_blank (by decide) <|
    Spread.more "@default(\"//\")".toList [' '] space_blank (by decide) <|
    Spread.more "@x".toList [' ', ' '] hgap (by decide) <| Spread.last ownerClause.toList
  have hprinted : ownerLine.PrintedAs ownerText.toList := by
    refine ⟨['\t', ' '], _, "// yes".toList, ?_, List.forall_mem_cons.2 ⟨by decide, space_blank⟩, hpieces ▸ hspread, ?_⟩
    · decide +kernel
    · exact ⟨[], "// yes".toList, rfl, List.forall_mem_nil _, Or.inr ⟨" yes".toList, by decide⟩,
        fun _ _ => by decide +kernel⟩
  obtain ⟨hread, hbase, hlist, hrequired⟩ := readField_printed hprintable hprinted
  exact ⟨hprintable, hprinted, hread, hbase.trans (by decide), hlist, hrequired⟩

/-- Parts that are no tokens outside literals are not read back: a generator with a space in its argument, a literal
with two slashes, and a comment that joins the slash before it. -/
theorem readField_printed_cut :
    (let l : FieldLine := ⟨{ textField with generatedBy := some "dbgenerated(gen random)" }, none, []⟩;
      l.written = "a String @default(dbgenerated(gen random))".toList ∧ readField l.written ≠ .ok l ∧
        readField l.written = .ok ⟨textField, none, ["random))".toList]⟩) ∧
    (let l : FieldLine := ⟨{ textField with default := some "http://x" }, none, []⟩;
      tokens? (defaultAttribute "http://x".toList) = some [defaultAttribute "http://x".toList] ∧
        l.written = "a String @default(http://x)".toList ∧ readField l.written ≠ .ok l ∧
        readField l.written = .ok ⟨textField, none, []⟩) ∧
    (let l : FieldLine := ⟨textField, none, ["@x/".toList]⟩;
      readField l.written = .ok l ∧ readField (l.written ++ "//c".toList) = .ok ⟨textField, none, ["@x".toList]⟩) := by
  decide

end EntityScaffold.Line

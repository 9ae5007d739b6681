import EntityScaffold.Document.Layout
import EntityScaffold.Proofs.Attributes

/-!
The shape of a line that is laid out. Blanks at the end play no part in it (`shape_trimEnd`), an indented name
is a field (`shape_indented`), and a delimiter keeps its shape and its comment (`shape_closing`, `shape_modelLine`)
as long as the name of the model leaves no literal open before a comment (`SettledOpening`).
-/

namespace EntityScaffold.Document

open Text Line

/-! ## Blanks at the ends -/

theorem shape_congr {a b : List Char} (htrim : trim a = trim b) (hindented : isIndented a = isIndented b) :
    shape a = shape b := by
  unfold shape
  rw [htrim, hindented]

theorem isIndented_trimEnd {line : List Char} (h : trim line ≠ []) : isIndented (trimEnd line) = isIndented line := by
  obtain ⟨tail, hline, -⟩ := trimEnd_append line
  have htight := trimEnd_tight line
  have hne : trimEnd line ≠ [] := fun hnil => h (by rw [← trim_trimEnd, hnil]; rfl)
  generalize trimEnd line = kept at hline htight hne
  subst hline
  match kept, hne with
  | [c], _ =>
    -- the one character kept is no blank, so neither text is indented
    have hc : isBlank c = false := htight c rfl
    have hspace : ' ' ≠ c := by rintro rfl; exact absurd hc (by decide)
    have htab : '\t' ≠ c := by rintro rfl; exact absurd hc (by decide)
    simp [isIndented, List.isPrefixOf, hspace, htab]
  | c :: d :: rest, _ => simp [isIndented, List.isPrefixOf]

/-- blanks at its end do not change what a line does -/
theorem shape_trimEnd (line : List Char) : shape (trimEnd line) = shape line := by
  by_cases h : trim line = []
  · simp [shape, trim_trimEnd, h]
  · exact shape_congr (trim_trimEnd line) (isIndented_trimEnd h)

/-- a line that is no comment and no directive, and is not blank, closes, is a field, opens, or is none of these -/
theorem shape_of_code {line : List Char} (h1 : trim line ≠ []) (h2 : ['/', '/'].isPrefixOf (trim line) = false)
    (h3 : ['@'].isPrefixOf (trim line) = false) : shape line ≠ .comment ∧ shape line ≠ .directive := by
  unfold shape
  dsimp only
  rw [if_neg h1, h2, h3]
  simp only [Bool.false_eq_true, if_false]
  split
  · exact ⟨nofun, nofun⟩
  · split
    · exact ⟨nofun, nofun⟩
    · split <;> exact ⟨nofun, nofun⟩

/-- comments and directives are told from their text alone -/
theorem shape_of_trim {a b : List Char} (htrim : trim a = trim b) (h : shape b = .comment ∨ shape b = .directive) :
    shape a = shape b := by
  by_cases h1 : trim b = []
  · simp only [shape, htrim, if_pos h1]
  by_cases h2 : ['/', '/'].isPrefixOf (trim b) = true
  · simp only [shape, htrim, if_neg h1, if_pos h2]
  by_cases h3 : ['@'].isPrefixOf (trim b) = true
  · simp only [shape, htrim, if_neg h1, if_neg h2, if_pos h3]
  · have hcode := shape_of_code h1 (Bool.eq_false_iff.2 h2) (Bool.eq_false_iff.2 h3)
    exact absurd h (not_or.2 hcode)

/-! ## Code at the start -/

theorem codeOf_cons {c : Char} (h : c ≠ '/') (rest : List Char) :
    codeOf (c :: rest) = c :: (splitCommentFrom (Place.code.next c) rest).1 := by
  unfold codeOf splitComment
  rw [splitCommentFrom_cons, if_neg]
  rintro ⟨-, hpre⟩
  exact h (List.cons_prefix_cons.1 hpre).1.symm

theorem trimEnd_cons {c : Char} (h : isBlank c = false) (rest : List Char) : trimEnd (c :: rest) = c :: trimEnd rest :=
  trimEndWhile_cons h rest

theorem trim_cons {c : Char} (h : isBlank c = false) (rest : List Char) : trim (c :: rest) = c :: trimEnd rest := by
  rw [trim, trimStart_eq_self (by simpa using h), trimEnd_cons h]

theorem indent_blanks : ∀ c ∈ indent, isBlank c = true :=
  List.forall_mem_cons.2 ⟨by decide, space_blank⟩

/-- an indented text that starts like a name is a field -/
theorem shape_indented {c : Char} (hblank : isBlank c = false) (hslash : c ≠ '/') (hat : c ≠ '@') (hbrace : c ≠ '}')
    (rest : List Char) : shape (indent ++ c :: rest) = .field := by
  have htrim : trim (indent ++ c :: rest) = c :: trimEnd rest := by
    rw [trim_blanks_append _ indent_blanks, trim_cons hblank]
  have hindented : isIndented (indent ++ c :: rest) = true := by simp [isIndented, indent, List.isPrefixOf]
  unfold shape
  dsimp only
  rw [htrim, hindented, codeOf_cons hslash, trimEnd_cons hblank]
  simp [List.isPrefixOf, Ne.symm hslash, Ne.symm hat, hbrace]

/-! ## Delimiters -/

theorem comment_split (rest : List Char) : splitComment ('/' :: '/' :: rest) = ([], some ('/' :: '/' :: rest)) := by
  unfold splitComment
  rw [splitCommentFrom_cons, if_pos ⟨rfl, ⟨rest, rfl⟩⟩]

section Delimiter

variable {text line : List Char}

theorem delimiter_none (h : commentOf? (trim line) = none) : delimiter text line = text := by
  simp [delimiter, h]

theorem delimiter_some {comment : List Char} (h : commentOf? (trim line) = some comment) :
    delimiter text line = text ++ ' ' :: comment := by
  simp [delimiter, h]

theorem delimiter_congr {line' : List Char} (h : commentOf? (trim line) = commentOf? (trim line')) :
    delimiter text line = delimiter text line' := by
  unfold delimiter
  rw [h]

theorem delimiter_tight (hend : EndsTight text) : EndsTight (delimiter text line) := by
  cases hc : commentOf? (trim line) with
  | none => rwa [delimiter_none hc]
  | some comment =>
    obtain ⟨h1, -, rest, rfl⟩ := commentOf?_eq_some hc
    have htight : EndsTight ('/' :: '/' :: rest) := (h1 ▸ trim_tight line : EndsTight (codeOf (trim line) ++ _)).suffix
    rw [delimiter_some hc, List.append_cons]
    exact htight.append (List.cons_ne_nil _ _)

theorem trim_delimiter {c : Char} (hc : isBlank c = false) (hend : EndsTight (c :: text)) :
    trim (delimiter (c :: text) line) = delimiter (c :: text) line := by
  refine trim_eq_self (fun d hd => ?_) (delimiter_tight hend)
  unfold delimiter at hd
  split at hd <;> · cases hd; exact hc

/-- **A delimiter is split where it was joined**, unless its text leaves a literal open before a comment. -/
theorem delimiter_split (line : List Char) (hcomment : NoComment .code text)
    (hplace : commentOf? (trim line) = none ∨ placeAfter .code text = .code) (hend : EndsTight text) :
    trimEnd (codeOf (delimiter text line)) = text ∧ commentOf? (delimiter text line) = commentOf? (trim line) := by
  cases hc : commentOf? (trim line) with
  | none =>
    rw [delimiter_none hc]
    unfold codeOf commentOf? splitComment
    rw [hcomment]
    exact ⟨trimEnd_eq_self hend, rfl⟩
  | some comment =>
    have hclean : Clean text := ⟨hcomment, hplace.resolve_left (by rw [hc]; simp)⟩
    obtain ⟨-, -, rest, rfl⟩ := commentOf?_eq_some hc
    have hsplit := splitComment_append (b := '/' :: '/' :: rest) (hclean.append_blanks space_blank)
      (append_blanks_last space_blank (List.cons_ne_nil _ _))
    have hrest := comment_split rest
    rw [delimiter_some hc, List.append_cons]
    refine ⟨?_, ?_⟩
    · rw [codeOf, hsplit, codeOf, hrest, List.append_nil, trimEnd_append_blanks _ space_blank, trimEnd_eq_self hend]
    · rw [commentOf?, hsplit, commentOf?, hrest]

end Delimiter

/-- the brace that closes a model keeps its shape and its comment -/
theorem shape_closing (line : List Char) : shape (delimiter ['}'] line) = .closing ∧
    commentOf? (trim (delimiter ['}'] line)) = commentOf? (trim line) := by
  have hclean : Clean ['}'] := ⟨rfl, rfl⟩
  have hend : EndsTight ['}'] := by
    intro c hc
    cases hc
    decide
  have htrim : trim (delimiter ['}'] line) = delimiter ['}'] line := trim_delimiter (by decide) hend
  obtain ⟨hcode, hcomment⟩ := delimiter_split line hclean.noComment (Or.inr hclean.place) hend
  have hhead : ∃ rest, delimiter ['}'] line = '}' :: rest := by
    unfold delimiter
    split
    · exact ⟨_, rfl⟩
    · exact ⟨[], rfl⟩
  obtain ⟨rest, hrest⟩ := hhead
  refine ⟨?_, by rw [htrim, hcomment]⟩
  unfold shape
  dsimp only
  rw [htrim, hcode, hrest]
  simp [List.isPrefixOf]

/-! ## Lines that open a model -/

theorem firstWord_append {word : List Char} (h : ∀ c ∈ word, isBlank c = false) {c : Char} (hc : isBlank c = true)
    (rest : List Char) : firstWord (word ++ c :: rest) = word := by
  unfold firstWord
  rw [List.takeWhile_append_of_pos (by simpa using h)]
  simp [hc]

theorem afterFirstWord_append {word : List Char} (h : ∀ c ∈ word, isBlank c = false) {c : Char} (hc : isBlank c = true)
    (rest : List Char) : afterFirstWord (word ++ c :: rest) = trimStart rest := by
  unfold afterFirstWord
  rw [List.dropWhile_append_of_pos (by simpa using h)]
  simp [hc, trimStart]

/-- what can be the name of a model: a word of code that ends in no brace -/
structure IsModelName (name : List Char) : Prop where
  ne_nil : name ≠ []
  word : ∀ c ∈ name, isBlank c = false
  braceless : trimEndWhile (· = '{') name = name
  noComment : NoComment .code name

theorem opening?_eq_some {code : List Char} {k : Keyword} {name : String} (h : opening? code = some (k, name)) :
    Keyword.ofWord? (firstWord code) = some k ∧ name.toList = trimEndWhile (· = '{') (firstWord (afterFirstWord code)) ∧
      name.toList ≠ [] := by
  unfold opening? at h
  split at h
  · cases h
  · next keyword hkeyword =>
    dsimp only at h
    split at h
    · next hname =>
      cases h
      simp only [Bool.and_eq_true, decide_eq_true_eq] at hname
      exact ⟨hkeyword, String.toList_ofList, by rw [String.toList_ofList]; exact hname.1⟩
    · cases h

theorem shape_eq_opening {line : List Char} {k : Keyword} {name : String} (h : shape line = .opening k name) :
    opening? (trimEnd (codeOf (trim line))) = some (k, name) := by
  unfold shape at h
  dsimp only at h
  split_ifs at h
  split at h
  · next hopen => cases h; exact hopen
  · cases h

theorem firstWord_blankless (text : List Char) : ∀ c ∈ firstWord text, isBlank c = false := by
  intro c hc
  simpa using List.mem_takeWhile_imp hc

theorem opening_isModelName {line : List Char} {name : String} (h : shape line = .opening .model name) :
    IsModelName name.toList := by
  obtain ⟨hkeyword, hname, hne⟩ := opening?_eq_some (shape_eq_opening h)
  generalize hcode : trimEnd (codeOf (trim line)) = code at hkeyword hname
  have hcomment : NoComment .code code := by
    obtain ⟨tail, htail, -⟩ := trimEnd_append (codeOf (trim line))
    have := noComment_codeOf (trim line)
    rw [htail, hcode] at this
    exact this.left
  have hword : firstWord code = "model".toList := by
    unfold Keyword.ofWord? at hkeyword
    have hfound := List.find?_some hkeyword
    exact (of_decide_eq_true hfound).symm
  -- the code is the keyword, blanks, and the word that starts with the name
  obtain ⟨gap, hgap, hblanks⟩ := trimStart_append (code.dropWhile (!isBlank ·))
  have hsplit : code = "model".toList ++ (gap ++ afterFirstWord code) := by
    rw [← hword, afterFirstWord, ← hgap]
    exact (List.takeWhile_append_dropWhile).symm
  obtain ⟨braces, hbraces, -, -⟩ := trimEndWhile_append (· = '{') (firstWord (afterFirstWord code))
  have hfirst : firstWord (afterFirstWord code) <+: afterFirstWord code := List.takeWhile_prefix _
  have hprefix : name.toList <+: afterFirstWord code :=
    List.IsPrefix.trans ⟨braces, by rw [hname, ← hbraces]⟩ hfirst
  have hafter : NoComment .code (afterFirstWord code) := by
    rw [hsplit] at hcomment
    have := hcomment.right.right
    rwa [show placeAfter .code "model".toList = .code by decide, placeAfter_code_blanks hblanks] at this
  refine ⟨hne, fun c hc => ?_, by rw [hname, trimEndWhile_idem], ?_⟩
  · refine firstWord_blankless _ c ((?_ : name.toList <+: firstWord (afterFirstWord code)).subset hc)
    exact ⟨braces, by rw [hname, ← hbraces]⟩
  · obtain ⟨rest, hrest⟩ := hprefix
    rw [← hrest] at hafter
    exact hafter.left

/-- the code of a line that opens a model, in its plain form -/
def modelCode (name : List Char) : List Char := "model ".toList ++ name ++ " \x7b".toList

section ModelLine

variable {name line : List Char}

theorem modelCode_eq (name : List Char) : modelCode name = "model ".toList ++ (name ++ [' ', '\x7b']) :=
  List.append_assoc _ _ _

theorem modelCode_word (name : List Char) : modelCode name = "model".toList ++ ' ' :: (name ++ [' ', '\x7b']) :=
  modelCode_eq name

theorem placeAfter_modelCode (name : List Char) :
    placeAfter .code (modelCode name) = .code ↔ placeAfter .code name = .code := by
  have hword : placeAfter .code "model ".toList = .code := by decide
  rw [modelCode_eq, placeAfter_append, placeAfter_append, hword]
  generalize placeAfter .code name = p
  cases p <;> decide

theorem modelCode_noComment (h : IsModelName name) : NoComment .code (modelCode name) := by
  have hword : Clean "model ".toList := ⟨rfl, rfl⟩
  have hbrace : ∀ p, NoComment p [' ', '\x7b'] := by intro p; cases p <;> rfl
  rw [modelCode_eq]
  refine hword.noComment.append ?_ fun hl => absurd hl (by decide)
  rw [hword.place]
  exact h.noComment.append (hbrace _) fun _ => by decide

theorem modelCode_tight (name : List Char) : EndsTight (modelCode name) := by
  intro c hc
  have : c = '\x7b' := by
    rw [modelCode_eq, ← List.append_assoc, List.getLast?_append_of_ne_nil _ (by decide)] at hc
    exact (Option.some.inj hc).symm
  rw [this]
  decide

theorem model_blankless : ∀ c ∈ "model".toList, isBlank c = false := by
  have hall : "model".toList.all (!isBlank ·) = true := by decide
  simpa only [List.all_eq_true, Bool.not_eq_true'] using hall

theorem opening?_modelCode (h : IsModelName name) : opening? (modelCode name) = some (.model, String.ofList name) := by
  have hword : firstWord (modelCode name) = "model".toList := by
    rw [modelCode_word, firstWord_append model_blankless (by decide)]
  have hstart : trimStart (name ++ [' ', '\x7b']) = name ++ [' ', '\x7b'] := by
    refine trimStart_eq_self fun c hc => h.word c ?_
    rw [List.head?_append_of_ne_nil _ h.ne_nil] at hc
    exact List.mem_of_head? hc
  have hname : firstWord (afterFirstWord (modelCode name)) = name := by
    rw [modelCode_word, afterFirstWord_append model_blankless (by decide), hstart, firstWord_append h.word (by decide)]
  have hbrace : ['\x7b'].isSuffixOf (modelCode name) = true := by
    rw [List.isSuffixOf_iff_suffix]
    exact ⟨"model ".toList ++ name ++ [' '],
      by rw [modelCode_eq]; simp only [List.append_assoc, List.cons_append, List.nil_append]⟩
  unfold opening?
  rw [hword, hname, show Keyword.ofWord? "model".toList = some .model by decide]
  dsimp only
  rw [h.braceless, if_pos (by simp [h.ne_nil, hbrace])]

/-- a model is opened in the same way by its plain form: no literal is left open before a comment -/
def SettledOpening (name : String) (line : List Char) : Prop :=
  commentOf? (trim line) = none ∨ placeAfter .code name.toList = .code

instance (name : String) (line : List Char) : Decidable (SettledOpening name line) :=
  inferInstanceAs (Decidable (_ ∨ _))

theorem trim_modelLine (name : String) (line : List Char) : trim (modelLine name line) = modelLine name line := by
  have hm : isBlank 'm' = false := by decide
  exact trim_delimiter hm (modelCode_tight name.toList)

/-- **A settled opening is kept**: its plain form opens the same model and has the same comment. -/
theorem shape_modelLine {name : String} (h : IsModelName name.toList) (hs : SettledOpening name line) :
    shape (modelLine name line) = .opening .model name ∧
      commentOf? (trim (modelLine name line)) = commentOf? (trim line) := by
  have hline : modelLine name line = delimiter (modelCode name.toList) line := rfl
  obtain ⟨hcode, hcomment⟩ := delimiter_split line (modelCode_noComment h)
    (hs.imp_right (placeAfter_modelCode _).2) (modelCode_tight _)
  rw [← hline] at hcode hcomment
  have hhead : ∃ rest, modelLine name line = 'm' :: rest := by
    rw [hline]
    unfold delimiter
    split <;> exact ⟨_, rfl⟩
  obtain ⟨rest, hrest⟩ := hhead
  refine ⟨?_, by rw [trim_modelLine, hcomment]⟩
  have hbrace : modelCode name.toList ≠ ['}'] := by rw [modelCode_word]; simp
  unfold shape
  dsimp only
  rw [trim_modelLine, hcode, opening?_modelCode h, String.ofList_toList, hrest]
  simp [List.isPrefixOf, isIndented, hbrace]

/-- an opening whose plain form does not change when it is laid out again is settled -/
theorem settledOpening_of_steady {name : String} (h : modelLine name (modelLine name line) = modelLine name line) :
    SettledOpening name line := by
  cases hc : commentOf? (trim line) with
  | none => exact Or.inl hc
  | some comment =>
    right
    have hline : modelLine name line = modelCode name.toList ++ ' ' :: comment := delimiter_some hc
    cases hl : commentOf? (trim (modelLine name line)) with
    | none =>
      have hagain : modelLine name (modelLine name line) = modelCode name.toList := delimiter_none hl
      have hlength := congrArg List.length (hagain.symm.trans (h.trans hline))
      simp at hlength
    | some comment' =>
      have hagain : modelLine name (modelLine name line) = modelCode name.toList ++ ' ' :: comment' := delimiter_some hl
      obtain rfl : comment' = comment := (List.cons.inj (List.append_cancel_left (hagain.symm.trans (h.trans hline)))).2
      -- the comment is found where it was written, and no comment starts inside a literal
      rw [trim_modelLine] at hl
      obtain ⟨hsplit, hplace, -⟩ := commentOf?_eq_some hl
      have hcode : codeOf (modelLine name line) = modelCode name.toList ++ [' '] := by
        have hwhole := hsplit.symm.trans hline
        rw [List.append_cons] at hwhole
        exact List.append_cancel_right hwhole
      rw [hcode, placeAfter_append] at hplace
      exact (placeAfter_modelCode _).1 (placeAfter_eq_code_of_blanks space_blank hplace)

end ModelLine

end EntityScaffold.Document

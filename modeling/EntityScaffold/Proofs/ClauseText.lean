import EntityScaffold.Proofs.Literal

/-!
The text of a relation clause. Whatever a clause was read from, its parts are made of the characters of that text
(`Clause.DrawnFrom`), so a clause that is written stays on its line (`newline_not_mem_written`).
-/

namespace EntityScaffold.Line

open Text

/-! ## Parts of a clause -/

theorem mem_trimStart {text : List Char} {c : Char} (h : c ∈ trimStart text) : c ∈ text :=
  (List.dropWhile_suffix isBlank).subset h

theorem mem_trim {text : List Char} {c : Char} (h : c ∈ trim text) : c ∈ text := by
  obtain ⟨lead, tail, htext, -, -⟩ := trim_append text
  rw [htext]
  exact List.mem_append_left _ (List.mem_append_right _ h)

theorem afterKeyFrom_suffix {key : List Char} {before : Option Char} {text value : List Char}
    (h : afterKeyFrom key before text = some value) : value <:+ text := by
  induction text generalizing before with
  | nil => cases h
  | cons c rest ih =>
    rw [afterKeyFrom] at h
    split at h
    · exact (ih h).trans (List.suffix_cons c rest)
    · next after hafter =>
      split at h
      · exact (ih h).trans (List.suffix_cons c rest)
      · split at h
        · next hvalue =>
          cases h
          rw [List.isPrefixOf?_eq_some_iff_append_eq] at hafter
          rw [← hafter]
          have hsuffix : ':' :: value <:+ after := hvalue ▸ List.dropWhile_suffix isBlank
          exact ((List.suffix_cons ':' value).trans hsuffix).trans (List.suffix_append _ _)
        · exact (ih h).trans (List.suffix_cons c rest)

theorem mem_afterKey? {key : String} {args value : List Char} (h : afterKey? key args = some value) {c : Char}
    (hc : c ∈ value) : c ∈ args := (afterKeyFrom_suffix h).subset hc

theorem mem_clauseArguments {clause : List Char} {c : Char} (h : c ∈ clauseArguments clause) : c ∈ clause := by
  have hmarker : ∀ x ∈ (relationMarker.isPrefixOf? clause).getD clause, x ∈ clause := by
    intro x hx
    cases hm : relationMarker.isPrefixOf? clause with
    | none => rwa [hm] at hx
    | some rest =>
      rw [hm] at hx
      rw [List.isPrefixOf?_eq_some_iff_append_eq] at hm
      exact hm ▸ List.mem_append_right _ hx
  refine hmarker c (mem_trim ?_)
  unfold clauseArguments at h
  dsimp only at h
  split at h
  · next inner hinner =>
    rw [hinner]
    cases hs : [')'].isSuffixOf? inner with
    | none => rwa [hs, Option.getD_none, hinner] at h
    | some body =>
      rw [hs, Option.getD_some] at h
      rw [List.isSuffixOf?_eq_some_iff_append_eq] at hs
      exact List.mem_cons_of_mem _ (hs ▸ List.mem_append_left _ h)
  · exact h

theorem upTo?_eq_some {c : Char} {text part : List Char} (h : upTo? c text = some part) :
    part = text.takeWhile (· ≠ c) := by
  unfold upTo? at h
  split at h
  · cases h; rfl
  · cases h

theorem mem_upTo? {c d : Char} {text part : List Char} (h : upTo? c text = some part) (hd : d ∈ part) : d ∈ text := by
  rw [upTo?_eq_some h] at hd
  exact (List.takeWhile_prefix _).subset hd

theorem mem_splitOn {sep : Char} {text piece : List Char} (h : piece ∈ text.splitOn sep) {c : Char} (hc : c ∈ piece) :
    c ∈ text := by
  induction text generalizing piece with
  | nil => rw [List.splitOn_nil, List.mem_singleton] at h; exact h ▸ hc
  | cons d text ih =>
    rw [List.splitOn_cons_eq_if_modifyHead] at h
    obtain ⟨first, rest, hsplit⟩ := List.exists_cons_of_ne_nil (List.splitOn_ne_nil sep text)
    rw [hsplit] at h ih
    split at h
    · rcases List.mem_cons.1 h with rfl | h
      · cases hc
      · exact List.mem_cons_of_mem _ (ih h hc)
    · rcases List.mem_cons.1 h with rfl | h
      · rcases List.mem_cons.1 hc with rfl | hc
        · exact List.mem_cons_self
        · exact List.mem_cons_of_mem _ (ih List.mem_cons_self hc)
      · exact List.mem_cons_of_mem _ (ih (List.mem_cons_of_mem _ h) hc)

theorem mem_listEntries {text : List Char} {entry : String} (h : entry ∈ listEntries text) {c : Char}
    (hc : c ∈ entry.toList) : c ∈ text := by
  obtain ⟨piece, hpiece, rfl⟩ := List.mem_map.1 h
  rw [String.toList_ofList] at hc
  obtain ⟨original, horiginal, rfl⟩ := List.mem_map.1 (List.mem_filter.1 hpiece).1
  exact mem_splitOn horiginal (mem_trim hc)

theorem mem_clauseName? {args : List Char} {name : String} (h : clauseName? args = some name) {c : Char}
    (hc : c ∈ name.toList) : c ∈ args := by
  unfold clauseName? at h
  dsimp only at h
  split at h
  · next inner hinner =>
    obtain ⟨part, hpart, rfl⟩ := Option.map_eq_some_iff.1 h
    rw [String.toList_ofList] at hc
    have hmem : c ∈ '"' :: inner := List.mem_cons_of_mem _ (mem_upTo? hpart hc)
    split at hinner
    · cases hinner; exact hmem
    · obtain ⟨value, hvalue, htrim⟩ := Option.map_eq_some_iff.1 hinner
      rw [← htrim] at hmem
      exact mem_afterKey? hvalue (mem_trimStart hmem)
  · cases h

theorem mem_bracketList {key : ListKey} {args : List Char} {entries : List String}
    (h : bracketList key args = .ok entries) {entry : String} (he : entry ∈ entries) {c : Char}
    (hc : c ∈ entry.toList) : c ∈ args := by
  unfold bracketList at h
  split at h
  · cases h; cases he
  · next value hvalue =>
    split at h
    · next inner hinner =>
      split at h
      · next text htext =>
        cases h
        have hmem : c ∈ '[' :: inner := List.mem_cons_of_mem _ (mem_upTo? htext (mem_listEntries he hc))
        rw [← hinner] at hmem
        exact mem_afterKey? hvalue (mem_trimStart hmem)
      · cases h
    · cases h

theorem mem_keyValue? {key : String} {args : List Char} {value : String} (h : keyValue? key args = some value)
    {c : Char} (hc : c ∈ value.toList) : c ∈ args := by
  obtain ⟨text, htext, h⟩ := Option.bind_eq_some_iff.1 h
  split at h
  · cases h
  · next part hpart =>
    cases h
    rw [String.toList_ofList] at hc
    exact mem_afterKey? htext ((List.takeWhile_prefix _).subset (mem_trim hc))

/-- the parts of the clause are made of the characters of a text -/
structure Clause.DrawnFrom (c : Clause) (text : List Char) : Prop where
  name : ∀ n, c.name = some n → ∀ x ∈ n.toList, x ∈ text
  fields : ∀ n ∈ c.fields, ∀ x ∈ n.toList, x ∈ text
  references : ∀ n ∈ c.references, ∀ x ∈ n.toList, x ∈ text
  onDelete : ∀ v, c.restrictions.onDelete = some v → ∀ x ∈ v.toList, x ∈ text
  onUpdate : ∀ v, c.restrictions.onUpdate = some v → ∀ x ∈ v.toList, x ∈ text

/-- everything a successful reading says about a clause -/
theorem readClause_ok {text : List Char} {c : Clause} (h : readClause text = .ok c) : isBalanced text = true ∧
    ∃ fields references, bracketList .fields (clauseArguments text) = .ok fields ∧
      bracketList .references (clauseArguments text) = .ok references ∧
      c = ⟨clauseName? (clauseArguments text), fields, references,
        ⟨keyValue? "onUpdate" (clauseArguments text), keyValue? "onDelete" (clauseArguments text)⟩⟩ := by
  unfold readClause at h
  split at h
  · next hb =>
    cases hf : bracketList .fields (clauseArguments text) with
    | error e => simp [hf, bind, Except.bind] at h
    | ok fields =>
      cases hr : bracketList .references (clauseArguments text) with
      | error e => simp [hf, hr, bind, Except.bind] at h
      | ok references =>
        simp only [hf, hr, bind, Except.bind, Except.ok.injEq] at h
        exact ⟨hb, fields, references, rfl, rfl, h.symm⟩
  · cases h

theorem readClause_drawnFrom {text : List Char} {c : Clause} (h : readClause text = .ok c) : c.DrawnFrom text := by
  obtain ⟨-, fields, references, hf, hr, rfl⟩ := readClause_ok h
  exact {
    name := fun n hn x hx => mem_clauseArguments (mem_clauseName? hn hx)
    fields := fun n hn x hx => mem_clauseArguments (mem_bracketList hf hn hx)
    references := fun n hn x hx => mem_clauseArguments (mem_bracketList hr hn hx)
    onDelete := fun v hv x hx => mem_clauseArguments (mem_keyValue? hv hx)
    onUpdate := fun v hv x hx => mem_clauseArguments (mem_keyValue? hv hx) }

/-! ## The written clause -/

theorem newline_not_mem_intercalate {sep : List Char} {parts : List (List Char)} (hsep : '\n' ∉ sep)
    (h : ∀ part ∈ parts, '\n' ∉ part) : '\n' ∉ List.intercalate sep parts := by
  intro hm
  rcases mem_intercalate hm with hm | ⟨part, hpart, hm⟩
  · exact hsep hm
  · exact h part hpart hm

theorem newline_not_mem_listArgument {key : ListKey} {names : List String} (h : ∀ n ∈ names, '\n' ∉ n.toList) :
    ∀ a ∈ listArgument key names, '\n' ∉ a := by
  intro a ha
  unfold listArgument at ha
  split at ha
  · cases ha
  · rw [List.mem_singleton.1 ha]
    have hnames : '\n' ∉ List.intercalate ", ".toList (names.map String.toList) :=
      newline_not_mem_intercalate (by decide) (by simpa using h)
    have hkey : '\n' ∉ key.word.toList := by cases key <;> decide
    simpa [hkey] using hnames

theorem newline_not_mem_valueArgument {key : String} {value : Option String} (hkey : '\n' ∉ key.toList)
    (h : ∀ v, value = some v → '\n' ∉ v.toList) : ∀ a ∈ valueArgument key value, '\n' ∉ a := by
  intro a ha
  cases value with
  | none => cases ha
  | some v =>
    rw [List.mem_singleton.1 ha]
    simpa [hkey] using h v rfl

theorem newline_not_mem_written {c : Clause} {text : List Char} (h : c.DrawnFrom text) (htext : '\n' ∉ text) :
    '\n' ∉ c.written := by
  have harguments : ∀ a ∈ c.arguments, '\n' ∉ a := by
    intro a ha
    simp only [Clause.arguments, List.mem_append] at ha
    rcases ha with (((ha | ha) | ha) | ha) | ha
    · cases hn : c.name with
      | none => rw [hn] at ha; cases ha
      | some n =>
        rw [hn] at ha
        rw [List.mem_singleton.1 ha]
        simpa using fun hm => htext (h.name n hn _ hm)
    · exact newline_not_mem_listArgument (fun n hn hm => htext (h.fields n hn _ hm)) a ha
    · exact newline_not_mem_listArgument (fun n hn hm => htext (h.references n hn _ hm)) a ha
    · exact newline_not_mem_valueArgument (by decide) (fun v hv hm => htext (h.onDelete v hv _ hm)) a ha
    · exact newline_not_mem_valueArgument (by decide) (fun v hv hm => htext (h.onUpdate v hv _ hm)) a ha
  unfold Clause.written
  split
  · decide
  · have hsep : '\n' ∉ ", ".toList := by decide
    have hjoined := newline_not_mem_intercalate hsep harguments
    have hmarker : '\n' ∉ relationMarker := by decide
    simpa [hmarker] using hjoined

theorem written_marker (c : Clause) : ∃ rest, c.written = relationMarker ++ rest := by
  unfold Clause.written
  split
  · exact ⟨[], by simp⟩
  · exact ⟨_, rfl⟩

theorem written_tight (c : Clause) : c.written ≠ [] ∧ EndsTight c.written := by
  have hclose : EndsTight [')'] := by
    intro d hd
    rw [show d = ')' by simpa using hd.symm]
    decide
  have hword : EndsTight ['n'] := by
    intro d hd
    rw [show d = 'n' by simpa using hd.symm]
    decide
  unfold Clause.written
  split
  · have hmarker : relationMarker = ['@', 'r', 'e', 'l', 'a', 't', 'i', 'o'] ++ ['n'] := by decide
    rw [hmarker]
    exact ⟨by simp, hword.append (by simp)⟩
  · have htight : EndsTight (relationMarker ++ '(' :: List.intercalate ", ".toList c.arguments ++ [')']) :=
      hclose.append (List.cons_ne_nil _ _)
    rw [List.append_assoc, List.cons_append] at htight
    exact ⟨by simp, htight⟩

end EntityScaffold.Line

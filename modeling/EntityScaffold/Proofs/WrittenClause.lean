import EntityScaffold.Proofs.Arguments
import EntityScaffold.Proofs.ClauseExtent

/-!
A clause that is written is read back. A clause of plain names (`Clause.Plain`) is clear, so its arguments are found
where they were written; and it leaves every scanner of the line as it was (`Clause.Plain.even`), so it is cut out of
its line as a whole. A field line with such a clause is settled (`Clause.Plain.settled`).
-/

namespace EntityScaffold.Line

open Text

/-- a clause of plain names: nothing in it can be taken for something else once it is written -/
structure Clause.Plain (c : Clause) : Prop where
  name : ∀ n, c.name = some n → '"' ∉ n.toList ∧ '\\' ∉ n.toList ∧ ':' ∉ n.toList
  fields : ∀ n ∈ c.fields, isIdentifier n.toList = true
  references : ∀ n ∈ c.references, isIdentifier n.toList = true
  onDelete : ∀ v, c.restrictions.onDelete = some v → isIdentifier v.toList = true
  onUpdate : ∀ v, c.restrictions.onUpdate = some v → isIdentifier v.toList = true

theorem Clause.Plain.clear {c : Clause} (h : c.Plain) : c.Clear where
  name n hn := ⟨(h.name n hn).1, (h.name n hn).2.2⟩
  fields := h.fields
  references := h.references
  onDelete := h.onDelete
  onUpdate := h.onUpdate

/-! ## The clause among the tokens -/

theorem even_colon : Even [':', ' '] := even_inert (by simp [IsInert])

theorem even_listArgument {key : ListKey} {names : List String} (h : ∀ n ∈ names, IsWord n.toList) :
    ∀ a ∈ listArgument key names, Even a ∧ Tidy a := by
  intro a ha
  obtain ⟨hne, rfl⟩ := mem_listArgument.1 ha
  have hparts : ∀ part ∈ names.map String.toList, IsWord part := by simpa using h
  have hkey : IsToken (key.word.toList ++ [':']) := (isWord_key key).token.append ⟨by decide, by decide⟩
  have hopen : IsToken ['['] := ⟨by decide, by decide⟩
  have hclose : IsToken [']'] := ⟨by decide, by decide⟩
  constructor
  · have hlist := (even_intercalate fun part hpart => (hparts part hpart).even).brackets
    have hall := ((isWord_key key).even.append even_colon).append hlist
    simpa using hall
  · have hlist := ((tidy_intercalate (by simpa using hne) fun part hpart => (hparts part hpart).token.tidy).prepend
      hopen).append hclose
    have hall := hkey.tidy.space hlist
    simpa using hall

theorem even_valueArgument {key value : List Char} (hkey : IsWord key) (hvalue : IsWord value) :
    Even (key ++ ':' :: ' ' :: value) ∧ Tidy (key ++ ':' :: ' ' :: value) := by
  have hcolon : IsToken (key ++ [':']) := hkey.token.append ⟨by decide, by decide⟩
  have heven := (hkey.even.append even_colon).append hvalue.even
  have htidy := hcolon.tidy.space hvalue.token.tidy
  exact ⟨by simpa using heven, by simpa using htidy⟩

/-- the arguments of a plain clause leave every scanner as it was -/
theorem Clause.Plain.even {c : Clause} (h : c.Plain) : ∀ a ∈ c.arguments, Even a ∧ Tidy a := by
  have hwords := h.clear.names
  intro a ha
  simp only [arguments_eq, List.mem_append] at ha
  rcases ha with (((ha | ha) | ha) | ha) | ha
  · obtain ⟨n, hn, rfl⟩ := mem_nameArgument.1 ha
    obtain ⟨h1, h2, -⟩ := h.name n hn
    exact ⟨even_quoted h1 h2, (literalText_plain h1 h2).token.tidy⟩
  · exact even_listArgument (hwords .fields) a ha
  · exact even_listArgument (hwords .references) a ha
  · obtain ⟨v, hv, rfl⟩ := mem_valueArgument.1 ha
    exact even_valueArgument isWord_onDelete (isWord_of_isIdentifier (h.onDelete v hv))
  · obtain ⟨v, hv, rfl⟩ := mem_valueArgument.1 ha
    exact even_valueArgument isWord_onUpdate (isWord_of_isIdentifier (h.onUpdate v hv))

theorem isToken_relationMarker : IsToken relationMarker := ⟨by decide, by decide⟩

section Parentheses

variable {inner : List Char}

theorem clean_parentheses (h : Even inner) : Clean (relationMarker ++ '(' :: (inner ++ [')'])) := by
  have hopen : Clean (relationMarker ++ ['(']) :=
    even_relationMarker.clean.append (⟨rfl, rfl⟩ : Clean ['(']) (by decide)
  have hinner : Clean (relationMarker ++ ['('] ++ inner) :=
    hopen.append h.clean fun hslash => absurd hslash (by decide)
  have hclose : Clean (relationMarker ++ ['('] ++ inner ++ [')']) :=
    hinner.append (⟨rfl, rfl⟩ : Clean [')']) fun _ => by decide
  simpa using hclose

theorem tidy_parentheses (h : Tidy inner) : Tidy (relationMarker ++ '(' :: (inner ++ [')'])) := by
  have hopen : IsToken (relationMarker ++ ['(']) := isToken_relationMarker.append ⟨by decide, by decide⟩
  have hclose : IsToken [')'] := ⟨by decide, by decide⟩
  simpa using (h.prepend hopen).append hclose

end Parentheses

/-- **A plain clause is settled**: it is cut out whole and read back. -/
theorem Clause.Plain.settled {c : Clause} (h : c.Plain) : c.Settled := by
  have hread := c.spelledBy_arguments.readClause h.clear
  have hwritten := written_eq_clauseOf c
  by_cases hnil : c.arguments = []
  · rw [hnil] at hwritten hread
    have htokens : tokens? c.written = some [relationMarker] := by
      rw [hwritten]
      exact isToken_relationMarker.tokens?
    refine ⟨by rw [hwritten]; decide, [relationMarker], htokens, by decide, ?_⟩
    rwa [joinTokens_singleton]
  · have heven := even_intercalate fun a ha => (h.even a ha).1
    have htidy := tidy_intercalate hnil fun a ha => (h.even a ha).2
    rw [clauseOf_of_ne_nil hnil] at hwritten hread
    obtain ⟨tokens, -, htokens, hjoin⟩ := tidy_parentheses htidy
    have hclean : Clean c.written := hwritten ▸ clean_parentheses heven
    have hwhole := splitClauseFrom_enclosed (Or.inl rfl) heven.toFlat.enclosed hjoin []
    rw [List.append_nil] at hwhole
    refine ⟨noComment_iff.1 hclean.noComment, tokens, ?_, congrArg Prod.snd hwhole, ?_⟩
    · rw [hwritten, ← hjoin]
      exact tokens?_joinTokens htokens
    · rwa [hjoin]

end EntityScaffold.Line

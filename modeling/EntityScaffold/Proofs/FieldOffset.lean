import EntityScaffold.Line.FieldLine
import EntityScaffold.Proofs.ClauseOffset
import EntityScaffold.Proofs.LineOffset

/-!
A field line read by offsets. The code of the line is cut off its comment and cut into tokens, and the clause is cut out
of the tokens after the type, between the place of its first token and the place behind its last. The number of its
tokens is counted; it is never more than there are (`clauseLength_le`), so every cut has an outcome
(`cutField_eq`). The depth that is counted on the way stays within the length of the text (`foldl_depth`).
-/

namespace EntityScaffold.Line

open Text

/-! ## The clause among tokens -/

/-- the number of tokens of the clause that tokens start with; a clause that is never complete has them all -/
def clauseLength : Extent → List (List Char) → Nat
  | _, [] => 0
  | e, token :: rest =>
    let e := token.foldl Extent.next e
    if e.isComplete rest then 1 else clauseLength e rest + 1

/-- tokens after the type, the clause cut out from between its first and its last token -/
def cutAttributes (tokens : List (List Char)) : Option (List (List Char) × Option (List (List Char))) :=
  match tokens.findIdx? startsClause with
  | none => some (tokens, none)
  | some first => do
    let before ← takePlaces first tokens
    let rest ← dropPlaces first tokens
    let last := first + clauseLength .start rest
    let after ← dropPlaces last tokens
    let clause ← (takePlaces last tokens).bind (dropPlaces first)
    some (before ++ after, some clause)

/-- a character changes the depth by one at most -/
theorem next_depth (e : Extent) (c : Char) : (e.next c).depth.natAbs ≤ e.depth.natAbs + 1 := by
  unfold Extent.next
  split_ifs <;> grind

/-- the depth stays within the number of characters read -/
theorem foldl_depth (e : Extent) (text : List Char) :
    (text.foldl Extent.next e).depth.natAbs ≤ e.depth.natAbs + text.length := by
  induction text generalizing e with
  | nil => exact Nat.le_refl _
  | cons c rest ih =>
    have hrest := ih (e.next c)
    have hc := next_depth e c
    rw [List.foldl_cons, List.length_cons]
    omega

theorem clauseLength_le (e : Extent) (tokens : List (List Char)) : clauseLength e tokens ≤ tokens.length := by
  induction tokens generalizing e with
  | nil => exact Nat.le_refl _
  | cons token rest ih =>
    have hrest := ih (token.foldl Extent.next e)
    simp only [clauseLength, List.length_cons]
    split <;> omega

theorem splitClauseFrom_eq (e : Extent) (tokens : List (List Char)) : splitClauseFrom e tokens =
    (tokens.take (clauseLength e tokens), tokens.drop (clauseLength e tokens)) := by
  induction tokens generalizing e with
  | nil => rfl
  | cons token rest ih =>
    simp only [splitClauseFrom, clauseLength]
    split
    · rfl
    · rw [ih]
      rfl

theorem splitAttributes_of_none {tokens : List (List Char)} (h : tokens.findIdx? startsClause = none) :
    splitAttributes tokens = (tokens, none) := by
  induction tokens with
  | nil => rfl
  | cons token rest ih =>
    rw [List.findIdx?_cons] at h
    split at h
    · cases h
    · next hstarts => rw [splitAttributes, if_neg hstarts, ih (by simpa using h)]

theorem splitAttributes_of_some {tokens : List (List Char)} {first : Nat}
    (h : tokens.findIdx? startsClause = some first) : ∃ before rest, tokens = before ++ rest ∧ before.length = first ∧
      splitAttributes tokens = (before ++ (splitClauseFrom .start rest).2, some (splitClauseFrom .start rest).1) := by
  induction tokens generalizing first with
  | nil => cases h
  | cons token rest ih =>
    rw [List.findIdx?_cons] at h
    split at h
    · next hstarts =>
      cases h
      exact ⟨[], token :: rest, rfl, rfl, by rw [splitAttributes, if_pos hstarts]; rfl⟩
    · next hstarts =>
      obtain ⟨later, hlater, rfl⟩ := Option.map_eq_some_iff.1 h
      obtain ⟨before, rest', rfl, rfl, hsplit⟩ := ih hlater
      exact ⟨token :: before, rest', rfl, rfl, by rw [splitAttributes, if_neg hstarts, hsplit]; rfl⟩

/-- **The clause is cut out** whole, and the other tokens are the attributes. -/
theorem cutAttributes_eq (tokens : List (List Char)) : cutAttributes tokens = some (splitAttributes tokens) := by
  unfold cutAttributes
  cases hfirst : tokens.findIdx? startsClause with
  | none => exact congrArg some (splitAttributes_of_none hfirst).symm
  | some first =>
    obtain ⟨before, rest, rfl, rfl, hsplit⟩ := splitAttributes_of_some hfirst
    have hlength : (rest.take (clauseLength .start rest)).length = clauseLength .start rest := by
      rw [List.length_take, Nat.min_eq_left (clauseLength_le .start rest)]
    have hrest := List.take_append_drop (clauseLength .start rest) rest
    rw [splitClauseFrom_eq] at hsplit
    rw [hsplit]
    simp only [takePlaces_append, dropPlaces_append, Option.bind_eq_bind, Option.bind_some]
    -- the clause stands between the tokens before it and the tokens after it
    generalize rest.take (clauseLength .start rest) = clause at hlength hrest ⊢
    generalize rest.drop (clauseLength .start rest) = after at hrest ⊢
    rw [← hlength, ← List.length_append, ← hrest, ← List.append_assoc, takePlaces_append, dropPlaces_append]
    simp only [Option.bind_some, dropPlaces_append]

/-! ## Field lines -/

/-- the field line that tokens make up -/
def cutFieldTokens (tokens : List (List Char)) : Cut LineError FieldLine :=
  match tokens[0]? with
  | none => throw (.invalidName "")
  | some name =>
    if isIdentifier name then
      match tokens[1]? with
      | none => throw (.missingType (String.ofList name))
      | some rawType => do
        let rest ← liftM (dropPlaces 2 tokens)
        let (attributes, clauseTokens) ← liftM (cutAttributes rest)
        let field := declaredField name rawType attributes
        let clause ← match clauseTokens with
          | none => pure none
          | some tokens => do
            let clause ← cutClause (joinTokens tokens)
            pure (some clause)
        pure {
          field
          clause := if field.isRelation then clause else none
          others := attributes.filter (!isKnownAttribute ·) }
    else throw (.invalidName (String.ofList name))

/-- the field line that a line stands for, cut out of it -/
def cutField (line : List Char) : Cut LineError FieldLine := do
  let (code, _) ← liftM (cutComment line)
  match ← liftM (cutTokens code) with
  | none => throw .unterminatedString
  | some tokens => cutFieldTokens tokens

theorem cutFieldTokens_eq (tokens : List (List Char)) : cutFieldTokens tokens = Cut.done (fieldOfTokens tokens) := by
  unfold cutFieldTokens fieldOfTokens
  match tokens with
  | [] => rfl
  | [name] =>
    simp only [List.getElem?_cons_zero, List.getElem?_cons_succ, List.getElem?_nil]
    split <;> rfl
  | name :: rawType :: rest =>
    have hrest : dropPlaces 2 (name :: rawType :: rest) = some rest := dropPlaces_append [name, rawType] rest
    simp only [List.getElem?_cons_zero, List.getElem?_cons_succ, hrest, cutAttributes_eq, cutClause_eq, Cut.lift_some,
      Cut.done_ok_bind]
    split
    · obtain ⟨attributes, clauseTokens⟩ := splitAttributes rest
      cases clauseTokens with
      | none => rfl
      | some clause =>
        dsimp only
        rw [Option.mapM_some]
        cases readClause (joinTokens clause) <;> rfl
    · rfl

/-- **A field line is cut up** between its characters and its tokens, whatever it holds. -/
theorem cutField_eq (line : List Char) : cutField line = Cut.done (readField line) := by
  unfold cutField readField codeOf
  simp only [cutComment_eq, cutTokens_eq, cutFieldTokens_eq, Cut.lift_some, Cut.done_ok_bind]
  cases tokens? (splitComment line).1 <;> rfl

end EntityScaffold.Line

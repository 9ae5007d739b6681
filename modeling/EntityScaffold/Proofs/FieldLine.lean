import EntityScaffold.Line.FieldLine
import Mathlib.Tactic

/-!
What reading a field line yields. `readField_ok` takes a successful reading apart once and for all: the
tokens, the name, the split of the attributes and the clause that was read. From it follow the facts that
the rest of the theory uses of a field: its name is an identifier, its link before the model is closed
depends on its type alone, and it has a clause exactly when a relation field is written with one.
-/

namespace EntityScaffold.Line

open Text

/-! ## The clause among the attributes -/

/-- a relation clause is written on a field line -/
def hasClause (line : List Char) : Bool :=
  match tokens? (codeOf line) with
  | some (_ :: _ :: attributes) => attributes.any startsClause
  | _ => false

theorem splitAttributes_of_not_any {attributes : List (List Char)} (h : attributes.any startsClause = false) :
    splitAttributes attributes = (attributes, none) := by
  induction attributes with
  | nil => rfl
  | cons token rest ih =>
    simp only [List.any_cons, Bool.or_eq_false_iff] at h
    simp only [splitAttributes, h.1, Bool.false_eq_true, if_false, ih h.2]

theorem splitAttributes_isSome (attributes : List (List Char)) :
    (splitAttributes attributes).2.isSome = attributes.any startsClause := by
  induction attributes with
  | nil => rfl
  | cons token rest ih =>
    by_cases h : startsClause token = true
    · simp [splitAttributes, h]
    · simp [splitAttributes, h, ih]

/-! ## Reading taken apart -/

/-- everything a successful reading says about the line -/
theorem readField_ok {line : List Char} {l : FieldLine} (h : readField line = .ok l) :
    ∃ name rawType attributes clause,
      tokens? (codeOf line) = some (name :: rawType :: attributes) ∧ isIdentifier name = true ∧
      ((splitAttributes attributes).2.mapM fun tokens => readClause (joinTokens tokens)) = .ok clause ∧
      l.field = declaredField name rawType (splitAttributes attributes).1 ∧
      l.clause = (if l.field.isRelation then clause else none) ∧
      l.others = (splitAttributes attributes).1.filter (!isKnownAttribute ·) := by
  unfold readField at h
  split at h
  · cases h
  · next tokens htokens =>
    match tokens with
    | [] => cases h
    | [name] => simp only [fieldOfTokens] at h; split at h <;> cases h
    | name :: rawType :: attributes =>
      simp only [fieldOfTokens] at h
      split at h
      · next hname =>
        cases hc : ((splitAttributes attributes).2.mapM fun tokens => readClause (joinTokens tokens)) with
        | error e => simp [hc, bind, Except.bind] at h
        | ok clause =>
          simp only [hc, bind, Except.bind, Except.ok.injEq] at h
          subst h
          exact ⟨name, rawType, attributes, clause, htokens, hname, hc, rfl, rfl, rfl⟩
      · cases h

def fieldLineOf (name rawType : List Char) (clause : Option Clause) (attributes : List (List Char)) : FieldLine where
  field := declaredField name rawType attributes
  clause := if (declaredField name rawType attributes).isRelation then clause else none
  others := attributes.filter (!isKnownAttribute ·)

def fieldOfParts (name rawType : List Char) (attributes : List (List Char)) (clause : Option (List Char)) :
    Except LineError FieldLine :=
  if isIdentifier name then (clause.mapM readClause).map fun clause => fieldLineOf name rawType clause attributes
  else .error (.invalidName (String.ofList name))

/-- tokens are read by the attributes and the clause that they hold -/
theorem fieldOfTokens_parts (name rawType : List Char) (tokens : List (List Char)) :
    fieldOfTokens (name :: rawType :: tokens) =
      fieldOfParts name rawType (splitAttributes tokens).1 ((splitAttributes tokens).2.map joinTokens) := by
  simp only [fieldOfTokens, fieldOfParts]
  cases (splitAttributes tokens).2 with
  | none => rfl
  | some clause =>
    simp only [Option.map_some, Option.mapM_some]
    cases readClause (joinTokens clause) <;> rfl

theorem hasClause_of_tokens {line name rawType : List Char} {attributes : List (List Char)}
    (h : tokens? (codeOf line) = some (name :: rawType :: attributes)) :
    hasClause line = attributes.any startsClause := by
  simp [hasClause, h]

/-! ## Facts about the field -/

theorem readField_name {line : List Char} {l : FieldLine} (h : readField line = .ok l) :
    isIdentifier l.field.name.toList = true := by
  obtain ⟨name, rawType, attributes, clause, -, hname, -, hfield, -, -⟩ := readField_ok h
  rw [hfield]
  simpa [declaredField] using hname

/-- a field is a relation field when its type is no scalar type; its link says so until a clause binds it -/
theorem declaredField_link (name rawType : List Char) (attributes : List (List Char)) :
    (declaredField name rawType attributes).link =
      if (declaredField name rawType attributes).isRelation then .implicit else .none := by
  cases hs : Scalar.ofName? (stripMarkers rawType) <;>
    simp [declaredField, Field.isRelation, Field.scalar?, hs]

theorem readField_link {line : List Char} {l : FieldLine} (h : readField line = .ok l) :
    l.field.link = if l.field.isRelation then .implicit else .none := by
  obtain ⟨name, rawType, attributes, clause, -, -, -, hfield, -, -⟩ := readField_ok h
  rw [hfield]
  exact declaredField_link name rawType _

/-- a clause is kept exactly where a relation field is written with one -/
theorem readField_clause {line : List Char} {l : FieldLine} (h : readField line = .ok l) :
    l.clause.isSome = (l.field.isRelation && hasClause line) := by
  obtain ⟨name, rawType, attributes, clause, htokens, -, hclause, -, hl, -⟩ := readField_ok h
  rw [hl, hasClause_of_tokens htokens, ← splitAttributes_isSome]
  cases hs : (splitAttributes attributes).2 with
  | none =>
    simp only [hs, Option.mapM_none] at hclause
    cases hclause
    simp
  | some tokens =>
    simp only [hs, Option.mapM_some] at hclause
    cases hr : readClause (joinTokens tokens) with
    | error e => rw [hr] at hclause; cases hclause
    | ok c =>
      rw [hr] at hclause
      cases hclause
      cases l.field.isRelation <;> rfl

end EntityScaffold.Line

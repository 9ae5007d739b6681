import EntityScaffold.Proofs.Binding
import EntityScaffold.Proofs.Planning

/-!
What the builds of an entity come to. Each is told from the schema alone, by the problems that can stop it, in the order
in which it meets them, and by the model that it has otherwise: validators (`validation_eq`), service (`service_eq`),
form (`form_eq`). The problems are names without a plural, entities without an identifier, and fields whose type is not
declared. All three look at the fields in their order, but for different spellings of the targets. The validators of the
targets are imported once each, in the order of first use (`validators_imports`).
-/

namespace EntityScaffold

/-! ## Problems of sequences -/

section Sequences

variable {ε α β : Type}

/-- one step after another meets the problems of both, those of the second after those of the first -/
theorem unlessProblem_bind {x : Except ε α} {f : α → Except ε β} {problems later : List ε} {a : α} {b : β}
    (hx : x = unlessProblem problems a) (hf : problems = [] → f a = unlessProblem later b) :
    (x >>= f) = unlessProblem (problems ++ later) b := by
  subst hx
  cases problems with
  | nil => exact hf rfl
  | cons p problems => rfl

/-- a step that always succeeds meets none -/
theorem unlessProblem_bind_ok {x : Except ε α} {f : α → Except ε β} {problems : List ε} {a : α} {b : β}
    (hx : x = unlessProblem problems a) (hf : f a = .ok b) : (x >>= f) = unlessProblem problems b := by
  rw [← List.append_nil problems]
  exact unlessProblem_bind hx fun _ => hf

/-- a list that is gone through with a state, as long as nothing is wrong and the state keeps an invariant -/
theorem foldlM_unlessProblem {add : β → α → Except ε β} {problems : α → List ε} {next : β → α → β} {Inv : β → Prop}
    (h : ∀ b a, Inv b → add b a = unlessProblem (problems a) (next b a))
    (hkeep : ∀ b a, Inv b → problems a = [] → Inv (next b a)) (l : List α) {b : β} (hb : Inv b) :
    l.foldlM add b = unlessProblem (l.flatMap problems) (l.foldl next b) := by
  induction l generalizing b with
  | nil => rfl
  | cons a l ih =>
    rw [List.foldlM_cons, List.flatMap_cons, List.foldl_cons]
    exact unlessProblem_bind (h b a hb) fun hnone => ih (hkeep b a hb hnone)

end Sequences

/-- the name has the spellings that validators, services and endpoints use -/
def isSpelled (name : String) : Bool := (Names.of? name).isSome

/-- the name has the spelling that a form uses -/
def hasResource (name : String) : Bool := (resourceName? name).isSome

namespace Artifact

/-! ## Problems -/

def spellingProblems (spelled : String → Bool) (name : String) : List BuildFailure :=
  if spelled name then [] else [.noPlural name]

/-- what is wrong with a field when its target needs a spelling -/
def fieldProblems (s : Schema) (e : Entity) (spelled : String → Bool) (f : Field) : List BuildFailure :=
  if f.isRelation then
    match s.entity? f.baseType with
    | some related => spellingProblems spelled related.name
    | none => if s.isEnum f.baseType then [] else [.flaw (.reference e.name f.name f.baseType)]
  else []

/-- what is wrong with an entity without an identifier -/
def identifierFlaws (e : Entity) : List BuildError := if (identifier? e).isSome then [] else [.noIdentifier e.name]

def validationProblems (s : Schema) (e : Entity) : List BuildFailure :=
  spellingProblems isSpelled e.name ++ e.fields.flatMap (fieldProblems s e isSpelled)

/-- what can stop the service, which asks for no spelling of a target -/
def serviceProblems (s : Schema) (e : Entity) : List BuildFailure :=
  spellingProblems isSpelled e.name ++
    ((identifierFlaws e).map .flaw ++ e.fields.flatMap (fieldProblems s e fun _ => true))

def formProblems (s : Schema) (e : Entity) : List BuildFailure :=
  e.fields.flatMap (fieldProblems s e hasResource) ++ spellingProblems isSpelled e.name

/-! ## Models -/

def validatorOf (s : Schema) (f : Field) : FieldValidator :=
  match f.scalar? with
  | some scalar => .scalar scalar
  | none =>
    match s.entity? f.baseType with
    | some related => .relation related.name (idValidatorName related.name) f.isList
    | none => .enum f.baseType

def bodyField (s : Schema) (e : Entity) (f : Field) : ValidatorField where
  name := f.name
  validator := validatorOf s f
  optional := (identifier? e).any (·.field = f.name) || isOptional f
  acceptsMany := (identifier? e).any (·.field = f.name)
  keyTarget := keyTarget? s f

/-- the import of an entity: the identifier validator and the file of its name -/
def importOf (name : String) : Import :=
  ⟨name, idValidatorName name, ((Names.of? name).getD ⟨"", "", "", "", "", ""⟩).fileStem⟩

@[simp] theorem importOf_entity (name : String) : (importOf name).entity = name := rfl

/-- the imports with that of a related entity, unless it is the entity itself or already there -/
def withImport (e related : Entity) (imports : List Import) : List Import :=
  if related.name ≠ e.name && !imports.any (·.entity = related.name) then imports ++ [importOf related.name]
  else imports

def relatedEntity? (s : Schema) (f : Field) : Option Entity := if f.isRelation then s.entity? f.baseType else none

def withTarget (s : Schema) (e : Entity) (imports : List Import) (f : Field) : List Import :=
  match relatedEntity? s f with
  | some related => withImport e related imports
  | none => imports

def validators (s : Schema) (e : Entity) : ValidationModel where
  names := spellings e
  identifier := identifier? e
  body := e.fields.map (bodyField s e)
  query := ((e.fields.map (bodyField s e)).filter fun v => (identifier? e).any (·.field = v.name)).map
    fun v => { v with optional := false }
  imports := e.fields.foldl (withTarget s e) []

/-- the connection that a relation field makes, if it holds a list of entities -/
def connectionOf (s : Schema) (f : Field) : Option Connection :=
  (s.entity? f.baseType).bind fun related => if f.isList then some ⟨f.name, related.name, targetKey related⟩ else none

def identifierOf (e : Entity) : Identifier := (identifier? e).getD ⟨"", .string, false⟩

def serviceOf (s : Schema) (e : Entity) : ServiceModel where
  names := spellings e
  identifier := identifierOf e
  findMany := ⟨(identifierOf e).field, true, "_start", "_end"⟩
  connections := e.relationFields.filterMap (connectionOf s)

/-- the way a field is shown, and the resource of its choices -/
def displayOf (s : Schema) (f : Field) : Display × Option ResourceRef :=
  match f.scalar? with
  | some scalar => (scalar.display, none)
  | none =>
    match s.entity? f.baseType with
    | some related => (.relation, some ⟨(resourceName? related.name).getD "", optionText related⟩)
    | none => (.text, none)

def shownField (s : Schema) (f : Field) : FormField where
  source := f.name
  label := String.ofList (Text.titleCase f.name.toList)
  kind := (displayOf s f).1
  required := f.isRequired && !f.isList && f.default.isNone
  readOnly := f.isReadOnly
  multiple := f.isList
  resource := (displayOf s f).2

def formOf (s : Schema) (e : Entity) : FormModel :=
  ⟨spellings e, (identifier? e).map (·.field), e.fields.map (shownField s)⟩

/-! ## Parts of a build -/

theorem spellingProblems_eq_nil {spelled : String → Bool} {name : String} :
    spellingProblems spelled name = [] ↔ spelled name = true := by
  unfold spellingProblems
  split <;> simp [*]

theorem isRelation_iff {f : Field} : f.isRelation = true ↔ f.scalar? = none := Option.isNone_iff_eq_none

theorem fieldProblems_scalar {s : Schema} {e : Entity} {spelled : String → Bool} {f : Field}
    (h : ¬f.isRelation = true) : fieldProblems s e spelled f = [] := if_neg h

theorem spellings_of_isSpelled {e : Entity} (h : isSpelled e.name = true) : Names.of? e.name = some (spellings e) := by
  obtain ⟨names, hnames⟩ := Option.isSome_iff_exists.1 h
  rw [spellings, hnames, Option.getD_some]

theorem namesOf_eq (e : Entity) : namesOf e.name = unlessProblem (spellingProblems isSpelled e.name) (spellings e) := by
  unfold namesOf spellingProblems isSpelled spellings
  cases Names.of? e.name <;> rfl

theorem resourceOf_eq (name : String) :
    resourceOf name = unlessProblem (spellingProblems hasResource name) ((resourceName? name).getD "") := by
  unfold resourceOf spellingProblems hasResource
  cases resourceName? name <;> rfl

theorem requireIdentifier_eq (e : Entity) :
    requireIdentifier e = unlessProblem ((identifierFlaws e).map .flaw) (identifierOf e) := by
  unfold requireIdentifier identifierFlaws identifierOf
  cases identifier? e <;> rfl

theorem target_bind {α : Type} {s : Schema} {e : Entity} {f : Field} (hf : f.isRelation = true)
    {spelled : String → Bool} {use : Target → Build α} {a : α}
    (hentity : ∀ related, s.entity? f.baseType = some related →
      use (.entity related) = unlessProblem (spellingProblems spelled related.name) a)
    (henum : s.entity? f.baseType = none → use (.enum f.baseType) = .ok a) :
    (target s e f >>= use) = unlessProblem (fieldProblems s e spelled f) a := by
  unfold target fieldProblems
  rw [if_pos hf]
  cases hrelated : s.entity? f.baseType with
  | some related => exact hentity related hrelated
  | none =>
    dsimp only
    split
    · exact henum hrelated
    · rfl

/-! ## Validators -/

/-- the entities that are imported have spellings -/
def Imported (imports : List Import) : Prop := ∀ i ∈ imports, isSpelled i.entity = true

section Validators

variable {s : Schema} {e : Entity}

theorem addImport_eq {related : Entity} {imports : List Import} (he : isSpelled e.name = true) (h : Imported imports) :
    addImport e related imports =
      unlessProblem (spellingProblems isSpelled related.name) (withImport e related imports) := by
  unfold addImport withImport
  split
  · exact unlessProblem_bind_ok (namesOf_eq related) rfl
  · next hknown =>
    -- the entity itself, or one that is imported already
    have hspelled : isSpelled related.name = true := by
      simp only [Bool.and_eq_true, decide_eq_true_eq, Bool.not_eq_true', not_and, Bool.not_eq_false,
        List.any_eq_true] at hknown
      by_cases hname : related.name = e.name
      · rw [hname, he]
      · obtain ⟨i, hi, hentity⟩ := hknown hname
        exact hentity ▸ h i hi
    rw [spellingProblems_eq_nil.2 hspelled]
    rfl

theorem withImport_imported {related : Entity} {imports : List Import} (h : Imported imports)
    (hrelated : isSpelled related.name = true) : Imported (withImport e related imports) := by
  unfold withImport
  split
  · intro i hi
    rcases List.mem_append.1 hi with hi | hi
    · exact h i hi
    · rw [List.mem_singleton.1 hi, importOf_entity, hrelated]
  · exact h

theorem fieldValidator_eq (he : isSpelled e.name = true) (f : Field) {imports : List Import} (h : Imported imports) :
    fieldValidator s e f imports =
      unlessProblem (fieldProblems s e isSpelled f) (validatorOf s f, withTarget s e imports f) := by
  unfold fieldValidator validatorOf withTarget relatedEntity?
  cases hscalar : f.scalar? with
  | some scalar =>
    have hf : ¬f.isRelation = true := by simp [isRelation_iff, hscalar]
    rw [fieldProblems_scalar hf, if_neg hf]
    rfl
  | none =>
    have hf : f.isRelation = true := isRelation_iff.2 hscalar
    rw [if_pos hf]
    refine target_bind hf (fun related hrelated => ?_) fun hrelated => ?_
    · rw [hrelated]
      exact unlessProblem_bind_ok (addImport_eq he h) rfl
    · rw [hrelated]

theorem withTarget_imported {f : Field} {imports : List Import} (h : Imported imports)
    (hf : fieldProblems s e isSpelled f = []) : Imported (withTarget s e imports f) := by
  unfold withTarget relatedEntity?
  unfold fieldProblems at hf
  split
  · next related hrelated =>
    split at hrelated
    · next hrelation =>
      rw [if_pos hrelation, hrelated] at hf
      exact withImport_imported h (spellingProblems_eq_nil.1 hf)
    · cases hrelated
  · exact h

theorem draft_add_eq (he : isSpelled e.name = true) (d : ValidationDraft) (f : Field) (hd : Imported d.imports) :
    d.add s e f =
      unlessProblem (fieldProblems s e isSpelled f) ⟨d.body ++ [bodyField s e f], withTarget s e d.imports f⟩ := by
  unfold ValidationDraft.add
  exact unlessProblem_bind_ok (fieldValidator_eq he f hd) rfl

theorem foldl_draft (fields : List Field) (d : ValidationDraft) :
    fields.foldl (fun d f => (⟨d.body ++ [bodyField s e f], withTarget s e d.imports f⟩ : ValidationDraft)) d =
      ⟨d.body ++ fields.map (bodyField s e), fields.foldl (withTarget s e) d.imports⟩ := by
  induction fields generalizing d with
  | nil => simp
  | cons f fields ih => simp [ih]

/-- **The validators of an entity**, or the first problem on the way to them. -/
theorem validation_eq (s : Schema) (e : Entity) :
    validation s e = unlessProblem (validationProblems s e) (validators s e) := by
  unfold validation validationProblems
  refine unlessProblem_bind (namesOf_eq e) fun hname => ?_
  have he : isSpelled e.name = true := spellingProblems_eq_nil.1 hname
  have hfields := foldlM_unlessProblem (draft_add_eq (s := s) he)
    (fun d f hd hf => withTarget_imported hd hf) e.fields (b := ⟨[], []⟩) (List.forall_mem_nil _)
  rw [foldl_draft] at hfields
  exact unlessProblem_bind_ok hfields rfl

end Validators

/-! ## Imports -/

/-- the names of the entities that some fields refer to, but for the entity itself -/
def foreignTargets (s : Schema) (e : Entity) (fields : List Field) : List String :=
  ((fields.filterMap (relatedEntity? s)).map (·.name)).filter (· ≠ e.name)

section Imports

variable {s : Schema} {e : Entity}

theorem relatedEntity?_eq_some {f : Field} {related : Entity} :
    relatedEntity? s f = some related ↔ f.isRelation = true ∧ s.entity? f.baseType = some related := by
  unfold relatedEntity?
  split <;> simp [*]

theorem mem_foreignTargets {fields : List Field} {name : String} :
    name ∈ foreignTargets s e fields ↔
      name ≠ e.name ∧ ∃ f ∈ fields, f.isRelation = true ∧ f.baseType = name ∧ (s.entity? name).isSome = true := by
  unfold foreignTargets
  simp only [List.mem_filter, List.mem_map, List.mem_filterMap, decide_eq_true_eq, relatedEntity?_eq_some]
  constructor
  · rintro ⟨⟨related, ⟨f, hf, hrelation, hrelated⟩, rfl⟩, hname⟩
    have hbase := entity?_name hrelated
    exact ⟨hname, f, hf, hrelation, hbase.symm, by rw [hbase, hrelated]; rfl⟩
  · rintro ⟨hname, f, hf, hrelation, rfl, hdeclared⟩
    obtain ⟨related, hrelated⟩ := Option.isSome_iff_exists.1 hdeclared
    exact ⟨⟨related, ⟨f, hf, hrelation, hrelated⟩, entity?_name hrelated⟩, hname⟩

/-- the imports of some fields: the names of other entities that they refer to, each where it is first used -/
structure ImportsOf (s : Schema) (e : Entity) (fields : List Field) (imports : List Import) : Prop where
  entities : imports.map (·.entity) = (foreignTargets s e fields).eraseDups
  once : (imports.map (·.entity)).Nodup
  named : ∀ i ∈ imports, i = importOf i.entity

theorem foreignTargets_concat (fields : List Field) (f : Field) :
    foreignTargets s e (fields ++ [f]) = foreignTargets s e fields ++ foreignTargets s e [f] := by
  simp [foreignTargets]

theorem foreignTargets_one {f : Field} {related : Entity} (h : relatedEntity? s f = some related)
    (hother : related.name ≠ e.name) : foreignTargets s e [f] = [related.name] := by
  simp [foreignTargets, h, hother]

theorem eraseDups_concat (names : List String) (name : String) :
    (names ++ [name]).eraseDups = if name ∈ names then names.eraseDups else names.eraseDups ++ [name] := by
  rw [List.eraseDups_append]
  by_cases h : name ∈ names <;> simp [List.removeAll, h, List.eraseDups_cons]

/-- **One more field** adds an import at most, for an entity that no earlier field refers to. -/
theorem withTarget_importsOf {fields : List Field} {imports : List Import} (h : ImportsOf s e fields imports)
    (f : Field) : ImportsOf s e (fields ++ [f]) (withTarget s e imports f) := by
  unfold withTarget
  cases hrelated : relatedEntity? s f with
  | none =>
    have hnone : foreignTargets s e [f] = [] := by simp [foreignTargets, hrelated]
    exact ⟨by rw [foreignTargets_concat, hnone, List.append_nil, h.entities], h.once, h.named⟩
  | some related =>
    dsimp only
    unfold withImport
    split
    · next hnew =>
      simp only [Bool.and_eq_true, decide_eq_true_eq, Bool.not_eq_true', List.any_eq_false] at hnew
      obtain ⟨hother, hnew⟩ := hnew
      have hfresh : related.name ∉ imports.map (·.entity) := by
        rw [List.mem_map]
        rintro ⟨i, hi, hentity⟩
        exact hnew i hi hentity
      refine ⟨?_, ?_, fun i hi => ?_⟩
      · have hunused : related.name ∉ foreignTargets s e fields := by
          rwa [h.entities, List.mem_eraseDups] at hfresh
        rw [foreignTargets_concat, foreignTargets_one hrelated hother, eraseDups_concat, if_neg hunused,
          List.map_append, h.entities]
        rfl
      · rw [List.map_append]
        exact h.once.append (List.nodup_singleton _) (by simpa using hfresh)
      · rcases List.mem_append.1 hi with hi | hi
        · exact h.named i hi
        · rw [List.mem_singleton.1 hi, importOf_entity]
    · next hknown =>
      refine ⟨?_, h.once, h.named⟩
      rw [foreignTargets_concat, h.entities]
      by_cases hother : related.name = e.name
      · have hnone : foreignTargets s e [f] = [] := by simp [foreignTargets, hrelated, hother]
        rw [hnone, List.append_nil]
      · have hused : related.name ∈ foreignTargets s e fields := by
          rw [← List.mem_eraseDups, ← h.entities]
          simpa [hother] using hknown
        rw [foreignTargets_one hrelated hother, eraseDups_concat, if_pos hused]

theorem foldl_withTarget (s : Schema) (e : Entity) (fields : List Field) :
    ImportsOf s e fields (fields.foldl (withTarget s e) []) := by
  induction fields using List.reverseRecOn with
  | nil => exact ⟨rfl, List.nodup_nil, List.forall_mem_nil _⟩
  | append_singleton fields f ih =>
    rw [List.foldl_append]
    exact withTarget_importsOf ih f

/-- **Imports.** Validators import the other entities that the fields refer to. -/
theorem validators_imports (s : Schema) (e : Entity) : ImportsOf s e e.fields (validators s e).imports :=
  foldl_withTarget s e e.fields

theorem target_imported {f : Field} (hf : f ∈ e.fields) {related : Entity}
    (hrelated : relatedEntity? s f = some related) :
    related.name = e.name ∨ related.name ∈ (validators s e).imports.map (·.entity) := by
  by_cases hname : related.name = e.name
  · exact Or.inl hname
  · obtain ⟨hrelation, hentity⟩ := relatedEntity?_eq_some.1 hrelated
    have hbase := entity?_name hentity
    rw [(validators_imports s e).entities, List.mem_eraseDups, mem_foreignTargets]
    exact Or.inr ⟨hname, f, hf, hrelation, hbase.symm, by rw [hbase, hentity]; rfl⟩

theorem imports_spelled (h : ∀ f ∈ e.fields, fieldProblems s e isSpelled f = []) {i : Import}
    (hi : i ∈ (validators s e).imports) : isSpelled i.entity = true := by
  have hmem := List.mem_map_of_mem (f := fun i : Import => i.entity) hi
  rw [(validators_imports s e).entities, List.mem_eraseDups, mem_foreignTargets] at hmem
  obtain ⟨-, f, hf, hrelation, hbase, hdeclared⟩ := hmem
  obtain ⟨related, hrelated⟩ := Option.isSome_iff_exists.1 hdeclared
  have hnone := h f hf
  rw [fieldProblems, if_pos hrelation, hbase, hrelated] at hnone
  rw [← entity?_name hrelated]
  exact spellingProblems_eq_nil.1 hnone

end Imports

/-! ## Services -/

theorem connection?_eq {s : Schema} {e : Entity} {f : Field} (hf : f.isRelation = true) :
    connection? s e f = unlessProblem (fieldProblems s e (fun _ => true) f) (connectionOf s f) := by
  unfold connection? connectionOf
  refine target_bind hf (fun related hrelated => ?_) fun hrelated => ?_
  · rw [hrelated]
    rfl
  · rw [hrelated]
    rfl

theorem flatMap_relationFields (s : Schema) (e : Entity) (spelled : String → Bool) :
    e.relationFields.flatMap (fieldProblems s e spelled) = e.fields.flatMap (fieldProblems s e spelled) := by
  unfold Entity.relationFields
  induction e.fields with
  | nil => rfl
  | cons f fields ih =>
    by_cases hf : f.isRelation = true
    · rw [List.filter_cons_of_pos hf, List.flatMap_cons, List.flatMap_cons, ih]
    · rw [List.filter_cons_of_neg hf, List.flatMap_cons, ih, fieldProblems_scalar hf, List.nil_append]

/-- **The service of an entity**, or the first problem on the way to it. -/
theorem service_eq (s : Schema) (e : Entity) : service s e = unlessProblem (serviceProblems s e) (serviceOf s e) := by
  have hconnections : e.relationFields.mapM (connection? s e) =
      unlessProblem (e.fields.flatMap (fieldProblems s e fun _ => true)) (e.relationFields.map (connectionOf s)) := by
    rw [← flatMap_relationFields]
    exact mapM_unlessProblem fun f hf => connection?_eq (List.mem_filter.1 hf).2
  unfold service serviceProblems
  refine unlessProblem_bind (namesOf_eq e) fun _ => ?_
  refine unlessProblem_bind (requireIdentifier_eq e) fun _ => ?_
  refine unlessProblem_bind_ok hconnections ?_
  rw [List.filterMap_map]
  rfl

/-! ## Forms -/

theorem formField_eq (s : Schema) (e : Entity) (f : Field) :
    formField s e f = unlessProblem (fieldProblems s e hasResource f) (shownField s f) := by
  have hdisplay : fieldDisplay s e f = unlessProblem (fieldProblems s e hasResource f) (displayOf s f) := by
    unfold fieldDisplay displayOf
    cases hscalar : f.scalar? with
    | some scalar => rw [fieldProblems_scalar (by simp [isRelation_iff, hscalar])]; rfl
    | none =>
      refine target_bind (isRelation_iff.2 hscalar) (fun related hrelated => ?_) fun hrelated => ?_
      · rw [hrelated]
        exact unlessProblem_bind_ok (resourceOf_eq related.name) rfl
      · rw [hrelated]
  unfold formField
  exact unlessProblem_bind_ok hdisplay rfl

/-- **The form of an entity**, or the first problem on the way to it. -/
theorem form_eq (s : Schema) (e : Entity) : form s e = unlessProblem (formProblems s e) (formOf s e) := by
  unfold form formProblems
  refine unlessProblem_bind (mapM_unlessProblem fun f _ => formField_eq s e f) fun _ => ?_
  exact unlessProblem_bind_ok (namesOf_eq e) rfl

end Artifact

end EntityScaffold

import EntityScaffold.Proofs.Picks

/-!
What the builds of an entity agree on. Validators, form and service go over the fields on their own, and each stops at
the first of its problems. Plurals apart, that is the same flaw for all three: the first relation field whose type is
not declared (`strayFlaws`), but for a service without an identifier, which does not get that far. Plurals set them
apart, since each asks for others, and at another time (`builds_part_kelvin`). Validators and form that are built show
the same fields in the same way (`Matches`).
-/

namespace EntityScaffold.Artifact

/-! ## Flaws -/

/-- what is wrong with the fields of an entity: the relation fields whose type is not declared, in their order -/
def strayFlaws (s : Schema) (e : Entity) : List BuildError :=
  (e.relationFields.filter fun f => ¬HasTarget s f).map fun f => .reference e.name f.name f.baseType

/-- a build is stopped by the first of some flaws, and by nothing else -/
def StopsAt {α : Type} (x : Build α) (flaws : List BuildError) : Prop :=
  ∀ w, x = .error w ↔ flaws.head?.map .flaw = some w

/-- with flaws a build fails, and without them it does not -/
theorem StopsAt.isOk_iff {α : Type} {x : Build α} {flaws : List BuildError} (h : StopsAt x flaws) :
    (∃ a, x = .ok a) ↔ flaws = [] := by
  cases hx : x with
  | ok a =>
    have hnone : flaws.head?.map BuildFailure.flaw = none := by
      rw [Option.eq_none_iff_forall_ne_some]
      intro w hw
      rw [(h w).2 hw] at hx
      cases hx
    exact iff_of_true ⟨a, rfl⟩ (by simpa using hnone)
  | error w =>
    have hhead := (h w).1 hx
    refine iff_of_false (by rintro ⟨a, ⟨⟩⟩) ?_
    rintro rfl
    cases hhead

/-- a build is stopped by a name that has no plural -/
def LacksPlural {α : Type} (x : Build α) : Prop := ∃ name, x = .error (.noPlural name)

section Flaws

variable {s : Schema} {e : Entity} {spelled : String → Bool}

/-- nothing is wrong with the fields if the relation fields have declared types -/
theorem strayFlaws_eq_nil : strayFlaws s e = [] ↔ ∀ f ∈ e.relationFields, HasTarget s f := by
  simp [strayFlaws, List.filter_eq_nil_iff]

theorem identifierFlaws_eq_nil : identifierFlaws e = [] ↔ (identifier? e).isSome = true := by
  unfold identifierFlaws
  split <;> simp [*]

/-- a field that asks for no spelling that is missing meets its flaw at most -/
theorem fieldProblems_spelled {f : Field}
    (h : ∀ related, f.isRelation = true → s.entity? f.baseType = some related → spelled related.name = true) :
    fieldProblems s e spelled f = fieldProblems s e (fun _ => true) f := by
  unfold fieldProblems
  split
  · next hf =>
    split
    · next related hrelated => rw [spellingProblems_eq_nil.2 (h related hf hrelated)]; rfl
    · rfl
  · rfl

theorem fieldProblems_unspelled {f : Field} {related : Entity} (hf : f.isRelation = true)
    (hrelated : s.entity? f.baseType = some related) (h : ¬spelled related.name = true) :
    fieldProblems s e spelled f = [.noPlural related.name] := by
  simp [fieldProblems, spellingProblems, hf, hrelated, h]

/-- without spellings to ask for, the problems of the fields are their flaws -/
theorem fieldProblems_stray (s : Schema) (e : Entity) :
    e.fields.flatMap (fieldProblems s e fun _ => true) = (strayFlaws s e).map .flaw := by
  have hfield : ∀ f, fieldProblems s e (fun _ => true) f =
      if f.isRelation = true ∧ ¬HasTarget s f then [.flaw (.reference e.name f.name f.baseType)] else [] := by
    intro f
    unfold fieldProblems
    cases hrelated : s.entity? f.baseType with
    | some related =>
      have htarget : HasTarget s f := Or.inl (by rw [hrelated]; rfl)
      simp [spellingProblems, htarget]
    | none =>
      have htarget : HasTarget s f ↔ s.isEnum f.baseType = true := by simp [HasTarget, hrelated]
      by_cases henum : s.isEnum f.baseType = true <;> simp [htarget, henum]
  unfold strayFlaws Entity.relationFields
  induction e.fields with
  | nil => rfl
  | cons f fields ih =>
    rw [List.flatMap_cons, ih, hfield]
    by_cases hf : f.isRelation = true <;> by_cases htarget : HasTarget s f <;> simp [hf, htarget]

/-- the first problem of the fields is their first flaw, unless it is a name without a plural -/
theorem head?_fieldProblems (fields : List Field)
    (h : ∀ name, (fields.flatMap (fieldProblems s e spelled)).head? ≠ some (.noPlural name)) :
    (fields.flatMap (fieldProblems s e spelled)).head? =
      (fields.flatMap (fieldProblems s e fun _ => true)).head? := by
  induction fields with
  | nil => rfl
  | cons f fields ih =>
    rw [List.flatMap_cons] at h ⊢
    have hfield : fieldProblems s e spelled f = fieldProblems s e (fun _ => true) f := by
      refine fieldProblems_spelled fun related hf hrelated => ?_
      by_contra hspelled
      rw [fieldProblems_unspelled hf hrelated hspelled] at h
      exact h related.name rfl
    rw [hfield] at h ⊢
    rw [List.flatMap_cons]
    cases hproblems : fieldProblems s e (fun _ => true) f with
    | nil =>
      rw [hproblems] at h
      exact ih h
    | cons p problems => rfl

theorem stopsAt_of_problems {α : Type} {x : Build α} {problems : List BuildFailure} {flaws : List BuildError}
    (hx : ∀ w, x = .error w ↔ problems.head? = some w)
    (h : (∀ name, problems.head? ≠ some (.noPlural name)) → problems.head? = flaws.head?.map .flaw) :
    LacksPlural x ∨ StopsAt x flaws := by
  by_cases hplural : ∃ name, problems.head? = some (.noPlural name)
  · obtain ⟨name, hname⟩ := hplural
    exact Or.inl ⟨name, (hx _).2 hname⟩
  · refine Or.inr fun w => ?_
    rw [hx, h fun name hname => hplural ⟨name, hname⟩]

end Flaws

/-! ## Builds -/

section Builds

variable (s : Schema) (e : Entity)

theorem validation_error (w : BuildFailure) :
    validation s e = .error w ↔ (validationProblems s e).head? = some w := by
  rw [validation_eq, unlessProblem_eq_error]

theorem service_error (w : BuildFailure) : service s e = .error w ↔ (serviceProblems s e).head? = some w := by
  rw [service_eq, unlessProblem_eq_error]

theorem form_error (w : BuildFailure) : form s e = .error w ↔ (formProblems s e).head? = some w := by
  rw [form_eq, unlessProblem_eq_error]

theorem validation_stopsAt : LacksPlural (validation s e) ∨ StopsAt (validation s e) (strayFlaws s e) := by
  refine stopsAt_of_problems (validation_error s e) fun h => ?_
  unfold validationProblems spellingProblems at h ⊢
  split at h
  · next he =>
    rw [if_pos he, List.nil_append]
    rw [head?_fieldProblems e.fields h, fieldProblems_stray, List.head?_map]
  · exact absurd rfl (h e.name)

theorem service_stopsAt :
    LacksPlural (service s e) ∨ StopsAt (service s e) (identifierFlaws e ++ strayFlaws s e) := by
  refine stopsAt_of_problems (service_error s e) fun h => ?_
  unfold serviceProblems spellingProblems at h ⊢
  split at h
  · next he => rw [if_pos he, List.nil_append, fieldProblems_stray, ← List.map_append, List.head?_map]
  · exact absurd rfl (h e.name)

theorem form_stopsAt : LacksPlural (form s e) ∨ StopsAt (form s e) (strayFlaws s e) := by
  refine stopsAt_of_problems (form_error s e) fun h => ?_
  unfold formProblems spellingProblems at h ⊢
  have hfields : (e.fields.flatMap (fieldProblems s e hasResource)).head? =
      (e.fields.flatMap (fieldProblems s e fun _ => true)).head? :=
    head?_fieldProblems e.fields fun name hname => h name (by rw [List.head?_append, hname]; rfl)
  rw [fieldProblems_stray, List.head?_map] at hfields
  rw [List.head?_append, hfields] at h ⊢
  -- the spelling of the entity itself is asked for once its fields are without flaw
  cases hflaw : (strayFlaws s e).head? with
  | some flaw => rfl
  | none =>
    rw [hflaw] at h
    split at h
    · next he => rw [if_pos he]; rfl
    · exact absurd rfl (h e.name)

/-- without names that lack a plural, nothing but a flaw stops a build -/
theorem not_lacksPlural {α : Type} {x : Build α} {problems : List BuildFailure}
    (hx : ∀ w, x = .error w ↔ problems.head? = some w) (h : ∀ name, .noPlural name ∉ problems) :
    ¬LacksPlural x := by
  rintro ⟨name, hname⟩
  exact h name (List.mem_of_head? ((hx _).1 hname))

end Builds

/-! ## Names without plurals -/

/-- the names that a build of an entity can ask a plural of are in ASCII -/
def HasPlainNames (s : Schema) (e : Entity) : Prop := ∀ x ∈ e :: s.entities, IsPlainName x.name

section Plain

variable {s : Schema} {e : Entity}

theorem spellingProblems_plain {x : Entity} (h : HasPlainNames s e) (hx : x ∈ e :: s.entities) (name : String) :
    .noPlural name ∉ spellingProblems isSpelled x.name ∧ .noPlural name ∉ spellingProblems hasResource x.name := by
  obtain ⟨hspelled, hresource⟩ := (h x hx).spelled
  rw [spellingProblems_eq_nil.2 hspelled, spellingProblems_eq_nil.2 hresource]
  exact ⟨List.not_mem_nil, List.not_mem_nil⟩

theorem fieldProblems_plain {spelled : String → Bool} {name : String}
    (h : ∀ related ∈ s.entities, .noPlural name ∉ spellingProblems spelled related.name) :
    .noPlural name ∉ e.fields.flatMap (fieldProblems s e spelled) := by
  rw [List.mem_flatMap]
  rintro ⟨f, -, hf⟩
  unfold fieldProblems at hf
  split at hf
  · split at hf
    · next related hrelated => exact h related (entity?_mem hrelated) hf
    · split at hf
      · exact List.not_mem_nil hf
      · cases List.mem_singleton.1 hf
  · exact List.not_mem_nil hf

theorem builds_plain (h : HasPlainNames s e) :
    ¬LacksPlural (validation s e) ∧ ¬LacksPlural (form s e) ∧ ¬LacksPlural (service s e) := by
  have hown := fun name => (spellingProblems_plain h List.mem_cons_self name).1
  refine ⟨not_lacksPlural (validation_error s e) fun name => ?_, not_lacksPlural (form_error s e) fun name => ?_,
    not_lacksPlural (service_error s e) fun name => ?_⟩
  · refine List.not_mem_append (hown name) (fieldProblems_plain fun related hrelated => ?_)
    exact (spellingProblems_plain h (List.mem_cons_of_mem _ hrelated) name).1
  · refine List.not_mem_append (fieldProblems_plain fun related hrelated => ?_) (hown name)
    exact (spellingProblems_plain h (List.mem_cons_of_mem _ hrelated) name).2
  · refine List.not_mem_append (hown name) ?_
    rw [fieldProblems_stray, ← List.map_append, List.mem_map]
    rintro ⟨flaw, -, hflaw⟩
    cases hflaw

end Plain

/-! ## Fields -/

/-- a field of a form shows what the validation of the field lets through -/
def Matches (v : ValidatorField) (shown : FormField) : Prop :=
  v.name = shown.source ∧
    match v.validator with
    | .relation _ _ multiple =>
      shown.kind = .relation ∧ shown.resource.isSome = true ∧ shown.multiple = multiple
    | .enum _ => shown.kind = .text ∧ shown.resource = none
    | .scalar scalar => shown.kind = scalar.display ∧ shown.resource = none

theorem matches_field (s : Schema) (e : Entity) (f : Field) : Matches (bodyField s e f) (shownField s f) := by
  refine ⟨rfl, ?_⟩
  unfold bodyField shownField validatorOf displayOf
  cases f.scalar? with
  | some scalar => exact ⟨rfl, rfl⟩
  | none =>
    cases s.entity? f.baseType with
    | some related => exact ⟨rfl, rfl, rfl⟩
    | none => exact ⟨rfl, rfl⟩

/-- what the builds of an entity agree on -/
structure Agreement (s : Schema) (e : Entity) : Prop where
  /-- validators and form stop at the first relation field without a declared type, or for want of a plural -/
  validators : LacksPlural (validation s e) ∨ StopsAt (validation s e) (strayFlaws s e)
  shown : LacksPlural (form s e) ∨ StopsAt (form s e) (strayFlaws s e)
  /-- a service needs an identifier besides -/
  served : LacksPlural (service s e) ∨ StopsAt (service s e) (identifierFlaws e ++ strayFlaws s e)
  /-- plurals are wanting only where names are not in ASCII -/
  plain : HasPlainNames s e →
    ¬LacksPlural (validation s e) ∧ ¬LacksPlural (form s e) ∧ ¬LacksPlural (service s e)
  /-- names in ASCII are built exactly if the relation fields have declared types, a service if it has an
  identifier too -/
  built : HasPlainNames s e → ((∃ m, validation s e = .ok m) ↔ ∀ f ∈ e.relationFields, HasTarget s f) ∧
    ((∃ g, form s e = .ok g) ↔ ∀ f ∈ e.relationFields, HasTarget s f) ∧
    ((∃ m, service s e = .ok m) ↔ (identifier? e).isSome = true ∧ ∀ f ∈ e.relationFields, HasTarget s f)
  /-- in general, the first problem of its own list stops each of them -/
  problems : ∀ w, (validation s e = .error w ↔ (validationProblems s e).head? = some w) ∧
    (form s e = .error w ↔ (formProblems s e).head? = some w) ∧
    (service s e = .error w ↔ (serviceProblems s e).head? = some w)
  /-- validators and form have the fields of the entity, in its order, and match -/
  fields : ∀ m g, validation s e = .ok m → form s e = .ok g →
    m.body.map (·.name) = e.fields.map (·.name) ∧ g.fields.map (·.source) = e.fields.map (·.name) ∧
    List.Forall₂ Matches m.body g.fields

/-- **Agreement of the builds.** In a schema whose names are in ASCII, the validators and the form of an entity fail
exactly if a relation field has no declared type, with the same error, which names the first such field; a service fails
for want of an identifier or else with that error. Elsewhere they part where a plural is wanting. Validators and form
that are built have a field for each field of the entity, in its order: a relation is shown as one, with its choices and
as many of them as it takes, an enum as text, and a scalar in the way of its type. -/
theorem builds_agree (s : Schema) (e : Entity) : Agreement s e where
  validators := validation_stopsAt s e
  shown := form_stopsAt s e
  served := service_stopsAt s e
  plain := builds_plain
  built := by
    intro h
    obtain ⟨hvalidation, hform, hservice⟩ := builds_plain h
    have hvalidation := (validation_stopsAt s e).resolve_left hvalidation
    have hform := (form_stopsAt s e).resolve_left hform
    have hservice := (service_stopsAt s e).resolve_left hservice
    rw [hvalidation.isOk_iff, hform.isOk_iff, hservice.isOk_iff, List.append_eq_nil_iff, strayFlaws_eq_nil,
      identifierFlaws_eq_nil]
    exact ⟨Iff.rfl, Iff.rfl, Iff.rfl⟩
  problems := fun w => ⟨validation_error s e w, form_error s e w, service_error s e w⟩
  fields := by
    intro m g hm hg
    rw [validation_eq] at hm
    rw [form_eq] at hg
    obtain ⟨-, rfl⟩ := unlessProblem_eq_ok hm
    obtain ⟨-, rfl⟩ := unlessProblem_eq_ok hg
    refine ⟨List.map_map, List.map_map, ?_⟩
    rw [validators, formOf, List.forall₂_map_left_iff, List.forall₂_map_right_iff, List.forall₂_same]
    exact fun f _ => matches_field s e f

def rosterSource : String :=
  "enum Role \x7b\n  ADMIN\n\x7d\nmodel Member \x7b\n  id Int @id\n  role Role\n  teams Team[]\n\x7d\n" ++
    "model Team \x7b\n  id Int @id\n\x7d\n"

def memberEntity : Entity :=
  ⟨"Member", 4, [idField, relationField "role" "Role" false, relationField "teams" "Team[]" false]⟩

def rosterSchema : Schema := ⟨[memberEntity, ⟨"Team", 9, [idField]⟩], [], ["Role"]⟩

/-- validators and form of the first model, field by field -/
theorem builds_agree_member : ∃ outcome m g, Document.load false rosterSource = .ok outcome ∧
    validation outcome.schema memberEntity = .ok m ∧ form outcome.schema memberEntity = .ok g ∧
    g.fields.map (·.kind) = [.number, .text, .relation] ∧ List.Forall₂ Matches m.body g.fields := by
  have hload : (Document.load false rosterSource).toOption.map (·.schema) = some rosterSchema := by decide +kernel
  have hm : (validation rosterSchema memberEntity).toOption.map (·.body.length) = some 3 := by decide +kernel
  have hg : (form rosterSchema memberEntity).toOption.map (·.fields.map (·.kind)) =
      some [.number, .text, .relation] := by decide +kernel
  obtain ⟨outcome, hload, hschema⟩ := ok_of_toOption_map hload
  obtain ⟨m, hm, -⟩ := ok_of_toOption_map hm
  obtain ⟨g, hg, hkinds⟩ := ok_of_toOption_map hg
  exact ⟨outcome, m, g, hload, hschema ▸ hm, hschema ▸ hg, hkinds,
    ((builds_agree rosterSchema memberEntity).fields m g hm hg).2.2⟩

def straySource : String := "model \u212ay \x7b\n  id Int @id\n  x Nope\n\x7d\n"

def strayEntity : Entity := ⟨"\u212ay", 1, [idField, relationField "x" "Nope" false]⟩

def straySchema : Schema := ⟨[strayEntity], [], []⟩

/-- for the validators the plural is wanting, before the form comes to that -/
theorem builds_part_kelvin : ∃ outcome, Document.load false straySource = .ok outcome ∧
    strayEntity ∈ outcome.schema.entities ∧
    form outcome.schema strayEntity = .error (.flaw (.reference "\u212ay" "x" "Nope")) ∧
    validation outcome.schema strayEntity = .error (.noPlural "\u212ay") ∧
    service outcome.schema strayEntity = .error (.noPlural "\u212ay") := by
  have hload : (Document.load false straySource).toOption.map (·.schema) = some straySchema := by decide +kernel
  obtain ⟨outcome, hload, hschema⟩ := ok_of_toOption_map hload
  refine ⟨outcome, hload, ?_⟩
  rw [hschema]
  refine ⟨List.mem_singleton_self _, ?_, ?_, ?_⟩
  · rw [form_error]
    decide +kernel
  · rw [validation_error]
    decide +kernel
  · rw [service_error]
    decide +kernel

end EntityScaffold.Artifact

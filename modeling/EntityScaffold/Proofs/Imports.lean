import EntityScaffold.Proofs.Picks

/-!
What the validators of an entity refer to. A relation field is validated by the identifier validator of its target, so
the target is the entity itself or imported, once for all of its fields (`ImportsOf`). A foreign key carries no target
of its own: it shares a relation with the field that declares it, in the same entity, and that field has gone through
the same loop. So in a loaded document everything that the validators refer to is at hand (`validation_grounded`).
-/

namespace EntityScaffold

/-! ## Declared relations -/

namespace Document

open Schema

theorem load_foreignKey {strict : Bool} {source : String} {o : Outcome} (h : load strict source = .ok o) {e : Entity}
    (he : e ∈ o.schema.entities) {f : Field} (hf : f ∈ e.fields) (hkey : f.isForeignKey = true) :
    ∃ r, o.schema.relationOf? f = some r ∧ f.name ∈ r.fields ∧ ∃ g ∈ e.relationFields, r.target = g.baseType := by
  obtain ⟨s, hwell, hbound⟩ := load_bound h
  rw [hbound] at he ⊢
  obtain ⟨e, hmem, rfl⟩ := List.mem_map.1 he
  obtain ⟨⟨r, hr, hlisted⟩, g, hg, hrelation, hlink⟩ := bound_sharesRelation (hwell.scalars e hmem) hf hkey
  have hgfield : g ∈ (s.boundEntity e).relationFields := List.mem_filter.2 ⟨hg, hrelation⟩
  refine ⟨r, hr, hlisted, g, hgfield, ?_⟩
  rw [boundEntity_relationFields] at hgfield
  obtain ⟨i, hi, hat⟩ := Option.bind_eq_some_iff.1 hr
  have hgi : g.relation? = some i := relation?_eq_some.2 (hlink.trans (relation?_eq_some.1 hi))
  obtain ⟨r', hr', -, htarget, -⟩ := hwell.declared e hmem g (List.mem_filter.1 hgfield).1 i hgi
  obtain rfl : r' = r := Option.some.inj (hr'.symm.trans hat)
  exact htarget

theorem load_fields_nodup {strict : Bool} {source : String} {o : Outcome} (h : load strict source = .ok o) {e : Entity}
    (he : e ∈ o.schema.entities) : (e.fields.map (·.name)).Nodup := by
  obtain ⟨s, hwell, hbound⟩ := load_bound h
  rw [hbound] at he
  obtain ⟨e, hmem, rfl⟩ := List.mem_map.1 he
  rw [boundEntity_fieldNames]
  exact hwell.names e hmem

end Document

namespace Artifact

/-! ## Validators -/

/-- an entity of this name is at hand: the entity itself, or one of the imports -/
def AtHand (e : Entity) (m : ValidationModel) (name : String) : Prop :=
  name = e.name ∨ name ∈ m.imports.map (·.entity)

/-- validators refer to nothing that is not at hand -/
structure Grounded (s : Schema) (e : Entity) (m : ValidationModel) : Prop where
  /-- other entities that relation fields refer to are imported, each at its first use, and nothing else is -/
  imports : m.imports.map (·.entity) = (foreignTargets s e e.fields).eraseDups
  once : (m.imports.map (·.entity)).Nodup
  /-- a relation is validated by the identifier validator of the entity itself or by one that is imported -/
  relations : ∀ v ∈ m.body, ∀ name idValidator multiple, v.validator = .relation name idValidator multiple →
    name = e.name ∨ ∃ i ∈ m.imports, i.entity = name ∧ i.idValidator = idValidator
  /-- a key belongs to a scalar field that the relation it reads lists, and what it refers to is at hand, or an enum -/
  keys : ∀ v ∈ m.body, ∀ k, v.keyTarget = some k →
    (∃ f r, e.field? v.name = some f ∧ f.isRelation = false ∧ s.relationOf? f = some r ∧ f.name ∈ r.fields ∧
      k = ⟨r.target, r.references⟩) ∧ (AtHand e m k.target ∨ s.isEnum k.target = true)
  /-- a query is the one entry of the identifier, which it cannot leave out -/
  query : match identifier? e with
    | some id => ∃ v, m.body.filter (·.name = id.field) = [v] ∧ m.query = [{ v with optional := false }]
    | none => m.query = []

section Validators

variable {s : Schema} {e : Entity}

theorem target_of_fieldProblems {spelled : String → Bool} {f : Field} (hf : f.isRelation = true)
    (h : fieldProblems s e spelled f = []) :
    (∃ related, relatedEntity? s f = some related) ∨ s.isEnum f.baseType = true := by
  unfold fieldProblems at h
  rw [if_pos hf] at h
  split at h
  · next related hrelated => exact Or.inl ⟨related, relatedEntity?_eq_some.2 ⟨hf, hrelated⟩⟩
  · split at h
    · next henum => exact Or.inr henum
    · cases h

theorem validatorOf_relation {f : Field} {name idValidator : String} {multiple : Bool}
    (h : validatorOf s f = .relation name idValidator multiple) :
    ∃ related, relatedEntity? s f = some related ∧ related.name = name ∧ idValidatorName name = idValidator := by
  unfold validatorOf at h
  split at h
  · cases h
  · next hscalar =>
    split at h
    · next related hrelated =>
      cases h
      exact ⟨related, relatedEntity?_eq_some.2 ⟨isRelation_iff.2 hscalar, hrelated⟩, rfl, rfl⟩
    · cases h

theorem validators_relations {v : ValidatorField} (hv : v ∈ (validators s e).body) {name idValidator : String}
    {multiple : Bool} (h : v.validator = .relation name idValidator multiple) :
    name = e.name ∨ ∃ i ∈ (validators s e).imports, i.entity = name ∧ i.idValidator = idValidator := by
  obtain ⟨f, hf, rfl⟩ := List.mem_map.1 hv
  obtain ⟨related, hrelated, rfl, rfl⟩ := validatorOf_relation h
  refine (target_imported hf hrelated).imp_right fun hmem => ?_
  obtain ⟨i, hi, hentity⟩ := List.mem_map.1 hmem
  exact ⟨i, hi, hentity, by rw [(validators_imports s e).named i hi, hentity]; rfl⟩

theorem keyTarget?_eq_some {f : Field} {k : KeyTarget} (h : keyTarget? s f = some k) :
    f.isForeignKey = true ∧ ∃ r, s.relationOf? f = some r ∧ k = ⟨r.target, r.references⟩ := by
  unfold keyTarget? at h
  split at h
  · next hkey =>
    obtain ⟨r, hr, rfl⟩ := Option.map_eq_some_iff.1 h
    exact ⟨hkey, r, hr, rfl⟩
  · cases h

/-- among fields of different names, each is the only one of its name -/
theorem filter_name_eq {fields : List Field} (h : (fields.map (·.name)).Nodup) {f : Field} (hf : f ∈ fields) :
    fields.filter (·.name = f.name) = [f] := by
  obtain ⟨before, after, rfl⟩ := List.append_of_mem hf
  rw [List.map_append, List.map_cons, List.nodup_append, List.nodup_cons] at h
  obtain ⟨-, ⟨hafter, -⟩, hbefore⟩ := h
  have hnone : before.filter (·.name = f.name) = [] ∧ after.filter (·.name = f.name) = [] := by
    simp only [List.filter_eq_nil_iff, decide_eq_true_eq]
    refine ⟨fun g hg hname => ?_, fun g hg hname => ?_⟩
    · exact hbefore g.name (List.mem_map_of_mem hg) f.name List.mem_cons_self hname
    · exact hafter (hname ▸ List.mem_map_of_mem hg)
  rw [List.filter_append, hnone.1, List.filter_cons_of_pos (by simp), hnone.2, List.nil_append]

theorem validators_query (hnames : (e.fields.map (·.name)).Nodup) : match identifier? e with
    | some id => ∃ v, (validators s e).body.filter (·.name = id.field) = [v] ∧
        (validators s e).query = [{ v with optional := false }]
    | none => (validators s e).query = [] := by
  unfold validators
  cases hid : identifier? e with
  | none => simp
  | some id =>
    obtain ⟨f, hf, hname⟩ := List.mem_map.1 (hasField_identifier hid)
    have hbody : (e.fields.map (bodyField s e)).filter (·.name = id.field) = [bodyField s e f] := by
      rw [List.filter_map, ← hname]
      exact congrArg (List.map (bodyField s e)) (filter_name_eq hnames hf)
    refine ⟨bodyField s e f, hbody, ?_⟩
    simp only [Option.any_some, eq_comm (a := id.field)]
    rw [hbody]
    rfl

end Validators

/-- **Validators of a loaded document.** Whatever the document, the validators of an entity that are built import the
other entities that its relation fields refer to, once each in the order of first use, and nothing else; relations and
foreign keys refer to the entity itself, to one of the imports or, for a key, to an enum; and a query is the entry of
the identifier alone, or empty where there is none. -/
theorem validation_grounded (strict : Bool) (source : String) (o : Document.Outcome)
    (h : Document.load strict source = .ok o) (e : Entity) (he : e ∈ o.schema.entities) (m : ValidationModel)
    (hm : validation o.schema e = .ok m) : Grounded o.schema e m := by
  have hnames := Document.load_fields_nodup h he
  rw [validation_eq] at hm
  obtain ⟨hproblems, rfl⟩ := unlessProblem_eq_ok hm
  have hfields : ∀ g ∈ e.fields, fieldProblems o.schema e isSpelled g = [] :=
    List.flatMap_eq_nil_iff.1 (List.append_eq_nil_iff.1 hproblems).2
  have himports := validators_imports o.schema e
  refine ⟨himports.entities, himports.once, fun v hv name idValidator multiple hrelation => ?_, fun v hv k hk => ?_,
    validators_query hnames⟩
  · exact validators_relations hv hrelation
  · obtain ⟨f, hf, rfl⟩ := List.mem_map.1 hv
    obtain ⟨hkey, r, hr, rfl⟩ := keyTarget?_eq_some hk
    obtain ⟨r', hr', hlisted, g, hg, htarget⟩ := Document.load_foreignKey h he hf hkey
    obtain rfl : r' = r := Option.some.inj (hr'.symm.trans hr)
    have hscalar : f.isRelation = false := by simpa using (Bool.and_eq_true_iff.1 hkey).1
    refine ⟨⟨f, r', Schema.field?_of_mem hnames hf, hscalar, hr, hlisted, rfl⟩, ?_⟩
    -- the field that declares the relation went through the same loop
    obtain ⟨hg, hrelation⟩ := List.mem_filter.1 hg
    rcases target_of_fieldProblems hrelation (hfields g hg) with ⟨related, hrelated⟩ | henum
    · have hname := entity?_name (relatedEntity?_eq_some.1 hrelated).2
      exact Or.inl (htarget ▸ hname ▸ target_imported hg hrelated)
    · exact Or.inr (htarget ▸ henum)

def playerSource : String :=
  "enum Role \x7b\n  GUEST\n\x7d\nmodel Player \x7b\n  id Int @id\n  role Role\n" ++
    "  team Team @relation(fields: [teamId], references: [id])\n  teamId Int\n  rivals Player[]\n  former Team[]\n" ++
    "  medals Medal[]\n\x7d\nmodel Team \x7b\n  id Int @id\n\x7d\nmodel Medal \x7b\n  id Int @id\n\x7d\n"

def playerEntity : Entity := ⟨"Player", 4, [idField, relationField "role" "Role" false,
  { relationField "team" "Team" false with link := .bound 0 }, { numberField "teamId" with link := .bound 0 },
  relationField "rivals" "Player[]" false, relationField "former" "Team[]" false,
  relationField "medals" "Medal[]" false]⟩

def playerSchema : Schema :=
  ⟨[playerEntity, ⟨"Team", 13, [idField]⟩, ⟨"Medal", 16, [idField]⟩],
    [⟨none, "Team", "team", ["teamId"], ["id"], ⟨none, none⟩, false, true⟩], ["Role"]⟩

/-- the other models are imported once each, and the foreign key refers to one of them -/
theorem validation_grounded_player : ∃ o m, Document.load true playerSource = .ok o ∧
    validation o.schema playerEntity = .ok m ∧ m.imports.map (·.entity) = ["Team", "Medal"] ∧
    m.body.filterMap (·.keyTarget) = [⟨"Team", ["id"]⟩] ∧ Grounded o.schema playerEntity m := by
  have hload : (Document.load true playerSource).toOption.map (·.schema) = some playerSchema := by decide +kernel
  have hm : (validation playerSchema playerEntity).toOption.map
      (fun m => (m.imports.map (·.entity), m.body.filterMap (·.keyTarget))) =
        some (["Team", "Medal"], [⟨"Team", ["id"]⟩]) := by decide +kernel
  obtain ⟨o, hload, hschema⟩ := ok_of_toOption_map hload
  obtain ⟨m, hm, hparts⟩ := ok_of_toOption_map hm
  rw [← hschema] at hm
  have he : playerEntity ∈ o.schema.entities := hschema ▸ List.mem_cons_self
  exact ⟨o, m, hload, hm, congrArg Prod.fst hparts, congrArg Prod.snd hparts,
    validation_grounded true playerSource o hload playerEntity he m hm⟩

end Artifact

end EntityScaffold

import EntityScaffold.Proofs.Loading

/-!
What binding the keys of a schema does. The keys are looked at by entity, by relation field and by listed name;
`keyProblems` lists everything that is wrong with them in this order, and `bound` is the schema in which each listed
scalar field has the link of the last relation field that lists it. Binding fails with the first problem and otherwise
returns `bound` (`bindKeys_eq`): a single key changes links alone (`bindKey_eq`), so what is wrong with a later key
does not hang on the keys bound before it.

Main statement: `read_bindKeys`, for every schema that was read, with the identity of keys and relations, and with
the schema that binding does not change any more.
-/

namespace EntityScaffold

/-- the first of some problems, or the result when there is none -/
def unlessProblem {ε α : Type} (problems : List ε) (result : α) : Except ε α :=
  match problems with
  | [] => .ok result
  | p :: _ => .error p

@[simp] theorem unlessProblem_nil {ε α : Type} (result : α) : unlessProblem ([] : List ε) result = .ok result := rfl

@[simp] theorem unlessProblem_cons {ε α : Type} (p : ε) (problems : List ε) (result : α) :
    unlessProblem (p :: problems) result = .error p := rfl

theorem unlessProblem_eq_error {ε α : Type} {problems : List ε} {a : α} {w : ε} :
    unlessProblem problems a = .error w ↔ problems.head? = some w := by
  cases problems <;> simp

theorem unlessProblem_eq_ok {ε α : Type} {problems : List ε} {a b : α} (h : unlessProblem problems a = .ok b) :
    problems = [] ∧ b = a := by
  cases problems with
  | nil => cases h; exact ⟨rfl, rfl⟩
  | cons p problems => cases h

theorem mapM_unlessProblem {ε α β : Type} {f : α → Except ε β} {problems : α → List ε} {result : α → β} {l : List α}
    (h : ∀ a ∈ l, f a = unlessProblem (problems a) (result a)) :
    l.mapM f = unlessProblem (l.flatMap problems) (l.map result) := by
  induction l with
  | nil => rfl
  | cons a l ih =>
    have hrest := ih fun b hb => h b (List.mem_cons_of_mem _ hb)
    rw [List.mapM_cons, h a List.mem_cons_self, List.flatMap_cons, List.map_cons, hrest]
    cases problems a with
    | nil => cases l.flatMap problems <;> rfl
    | cons p ps => rfl

namespace Schema

/-! ## Problems and links, told from the schema -/

/-- what is wrong with a name that a relation field lists as a key of its entity -/
def keyProblem? (e : Entity) (relationField key : String) : Option BindError :=
  match e.field? key with
  | none => some (.unknownKey e.name relationField key)
  | some f => if f.isRelation then some (.keyNotScalar e.name relationField key) else none

/-- the names that the relation of a field lists as keys -/
def listedKeys (s : Schema) (g : Field) : List String := ((s.relationOf? g).map (·.fields)).getD []

/-- what is wrong with the keys of an entity, by relation field and by listed name -/
def entityProblems (s : Schema) (e : Entity) : List BindError :=
  e.relationFields.flatMap fun g => (s.listedKeys g).filterMap (keyProblem? e g.name)

/-- what is wrong with the keys of a schema, entity by entity -/
def keyProblems (s : Schema) : List BindError := s.entities.flatMap s.entityProblems

/-- the last field, in the order of the fields, whose relation lists a name as a key -/
def lastLister? (s : Schema) (e : Entity) (name : String) : Option Field :=
  (e.relationFields.filter fun g => (s.listedKeys g).contains name).getLast?

/-- the field as binding leaves it: a scalar field that is listed has the link of the last field that lists it -/
def boundField (s : Schema) (e : Entity) (f : Field) : Field :=
  if f.isRelation then f
  else
    match s.lastLister? e f.name with
    | none => f
    | some g => { f with link := g.link }

def boundEntity (s : Schema) (e : Entity) : Entity := { e with fields := e.fields.map (s.boundField e) }

def bound (s : Schema) : Schema := { s with entities := s.entities.map s.boundEntity }

/-! ## One key -/

theorem linkField_find? (name key : String) (relation : Nat) (fields : List Field) :
    ((linkField name relation fields).find? (·.name = key)).map (·.isRelation) =
      (fields.find? (·.name = key)).map (·.isRelation) := by
  induction fields with
  | nil => rfl
  | cons f fields ih =>
    have hhead : (if f.name = name then { f with link := .bound relation } else f).name = f.name := by split <;> rfl
    rw [linkField, List.map_cons]
    by_cases hkey : f.name = key
    · rw [List.find?_cons_of_pos (by simpa [hhead] using hkey), List.find?_cons_of_pos (by simpa using hkey)]
      split <;> rfl
    · rw [List.find?_cons_of_neg (by simpa [hhead] using hkey), List.find?_cons_of_neg (by simpa using hkey)]
      exact ih

/-- a key is bound when nothing is wrong with it; links play no part in that -/
theorem bindKey_eq {e : Entity} {fields : List Field} (use : KeyUse)
    (h : (fields.find? (·.name = use.key)).map (·.isRelation) = (e.field? use.key).map (·.isRelation)) :
    bindKey e.name fields use = unlessProblem (keyProblem? e use.relationField use.key).toList
      (linkField use.key use.relation fields) := by
  unfold bindKey keyProblem?
  cases hf : fields.find? (·.name = use.key) with
  | none =>
    rw [hf, Option.map_none, eq_comm, Option.map_eq_none_iff] at h
    rw [h]
    rfl
  | some f =>
    rw [hf, Option.map_some, eq_comm, Option.map_eq_some_iff] at h
    obtain ⟨f', hf', hrelation⟩ := h
    rw [hf']
    simp only [hrelation]
    split <;> rfl

/-- keys are bound one after the other up to the first with a problem -/
theorem bindKeys_fields {e : Entity} {uses : List KeyUse} {fields : List Field}
    (h : ∀ key, (fields.find? (·.name = key)).map (·.isRelation) = (e.field? key).map (·.isRelation)) :
    uses.foldlM (bindKey e.name) fields =
      unlessProblem (uses.filterMap fun use => keyProblem? e use.relationField use.key)
        (uses.foldl (fun fields use => linkField use.key use.relation fields) fields) := by
  induction uses generalizing fields with
  | nil => rfl
  | cons use uses ih =>
    rw [List.foldlM_cons, bindKey_eq use (h use.key), List.filterMap_cons, List.foldl_cons]
    cases keyProblem? e use.relationField use.key with
    | some p => rfl
    | none => exact ih fun key => (linkField_find? _ _ _ _).trans (h key)

/-! ## The links of an entity -/

/-- the link of a field after some uses of keys: the last use of its name counts -/
def linkAfter (uses : List KeyUse) (f : Field) : Link :=
  match (uses.filter (·.key = f.name)).getLast? with
  | none => f.link
  | some use => .bound use.relation

theorem linkAfter_cons (use : KeyUse) (uses : List KeyUse) (f : Field) :
    linkAfter (use :: uses) f =
      linkAfter uses (if f.name = use.key then { f with link := .bound use.relation } else f) := by
  unfold linkAfter
  by_cases h : f.name = use.key
  · rw [List.filter_cons_of_pos (by simp [h]), List.getLast?_cons, if_pos h]
    cases (uses.filter (·.key = f.name)).getLast? <;> rfl
  · rw [List.filter_cons_of_neg (by simpa using Ne.symm h), if_neg h]

/-- linking key by key gives each field the link of the last use of its name -/
theorem foldl_linkField (uses : List KeyUse) (fields : List Field) :
    uses.foldl (fun fields use => linkField use.key use.relation fields) fields =
      fields.map fun f => { f with link := linkAfter uses f } := by
  induction uses generalizing fields with
  | nil => exact (List.map_id' fields).symm
  | cons use uses ih =>
    rw [List.foldl_cons, ih, linkField, List.map_map]
    apply List.map_congr_left
    intro f _
    simp only [Function.comp, linkAfter_cons]
    split <;> rfl

/-- the uses of keys by one relation field -/
def fieldUses (relations : List Relation) (g : Field) : List KeyUse :=
  match g.relation? with
  | none => []
  | some i =>
    match relations[i]? with
    | none => []
    | some r => r.fields.map fun key => ⟨i, g.name, key⟩

theorem keyUses_eq (relations : List Relation) (e : Entity) :
    keyUses relations e = e.relationFields.flatMap (fieldUses relations) := rfl

theorem fieldUses_eq (s : Schema) (g : Field) :
    fieldUses s.relations g = (s.listedKeys g).map fun key => ⟨(g.relation?).getD 0, g.name, key⟩ := by
  unfold fieldUses listedKeys relationOf?
  cases g.relation? with
  | none => rfl
  | some i => cases hr : s.relations[i]? <;> simp [hr]

theorem relation?_eq_some {g : Field} {i : Nat} : g.relation? = some i ↔ g.link = .bound i := by
  unfold Field.relation?
  split
  · next h => rw [h, Option.some.injEq, Link.bound.injEq]
  · next h => exact iff_of_false nofun (h i)

/-- a field that lists a key takes part in a relation of the schema -/
theorem listedKeys_bound {s : Schema} {g : Field} {key : String} (h : key ∈ s.listedKeys g) :
    ∃ i r, g.link = .bound i ∧ s.relationOf? g = some r ∧ key ∈ r.fields := by
  unfold listedKeys at h
  cases hr : s.relationOf? g with
  | none => rw [hr] at h; cases h
  | some r =>
    rw [hr] at h
    obtain ⟨i, hi, -⟩ := Option.bind_eq_some_iff.1 hr
    exact ⟨i, r, relation?_eq_some.1 hi, rfl, h⟩

theorem mem_fieldUses {s : Schema} {g : Field} {use : KeyUse} (h : use ∈ fieldUses s.relations g) :
    .bound use.relation = g.link ∧ use.key ∈ s.listedKeys g := by
  rw [fieldUses_eq] at h
  obtain ⟨key, hkey, rfl⟩ := List.mem_map.1 h
  obtain ⟨i, r, hi, -, -⟩ := listedKeys_bound hkey
  refine ⟨?_, hkey⟩
  rw [hi, relation?_eq_some.2 hi, Option.getD_some]

theorem fieldUses_filter_eq_nil {s : Schema} {g : Field} {name : String} :
    (fieldUses s.relations g).filter (·.key = name) = [] ↔ name ∉ s.listedKeys g := by
  rw [fieldUses_eq, List.filter_map, List.map_eq_nil_iff, List.filter_eq_nil_iff]
  simp only [Function.comp, decide_eq_true_eq]
  exact ⟨fun h hm => h name hm rfl, fun h key hkey heq => h (heq ▸ hkey)⟩

theorem last_use (s : Schema) (name : String) (fields : List Field) :
    (((fields.flatMap (fieldUses s.relations)).filter (·.key = name)).getLast?).map
        (fun use => Link.bound use.relation) =
      ((fields.filter fun g => (s.listedKeys g).contains name).getLast?).map (·.link) := by
  induction fields using List.reverseRecOn with
  | nil => rfl
  | append_singleton fields g ih =>
    rw [List.flatMap_append, List.filter_append, List.filter_append, List.getLast?_append, List.getLast?_append,
      List.flatMap_singleton]
    cases hlast : ((fieldUses s.relations g).filter (·.key = name)).getLast? with
    | none =>
      have hname := fieldUses_filter_eq_nil.1 (List.getLast?_eq_none_iff.1 hlast)
      have hdrop : [g].filter (fun g => (s.listedKeys g).contains name) = [] := by simpa using hname
      rw [hdrop]
      exact ih
    | some use =>
      obtain ⟨hmem, hname⟩ := List.mem_filter.1 (List.mem_of_getLast? hlast)
      obtain ⟨hlink, hkey⟩ := mem_fieldUses hmem
      rw [decide_eq_true_eq] at hname
      have hkeep : [g].filter (fun g => (s.listedKeys g).contains name) = [g] := by simpa using hname ▸ hkey
      rw [hkeep]
      exact congrArg some hlink

theorem linkAfter_keyUses (s : Schema) (e : Entity) (f : Field) :
    linkAfter (keyUses s.relations e) f = ((s.lastLister? e f.name).map (·.link)).getD f.link := by
  have h := last_use s f.name e.relationFields
  unfold linkAfter lastLister?
  rw [← h, keyUses_eq]
  cases ((e.relationFields.flatMap (fieldUses s.relations)).filter (·.key = f.name)).getLast? <;> rfl

theorem keyUses_problems (s : Schema) (e : Entity) :
    ((keyUses s.relations e).filterMap fun use => keyProblem? e use.relationField use.key) = s.entityProblems e := by
  rw [keyUses_eq, List.filterMap_flatMap, entityProblems]
  congr 1
  funext g
  rw [fieldUses_eq, List.filterMap_map]
  rfl

/-! ## Entities -/

theorem field?_of_mem {e : Entity} (h : (e.fields.map (·.name)).Nodup) {f : Field} (hf : f ∈ e.fields) :
    e.field? f.name = some f := by
  cases hfound : e.field? f.name with
  | none =>
    have hother := List.find?_eq_none.1 hfound f hf
    simp at hother
  | some f' =>
    have hname : f'.name = f.name := by simpa using List.find?_some hfound
    rw [List.inj_on_of_nodup_map h (List.mem_of_find?_eq_some hfound) hf hname]

/-- where nothing is wrong, a listed name is the name of a scalar field -/
theorem scalar_of_listed {s : Schema} {e : Entity} (h : s.entityProblems e = []) {g : Field}
    (hg : g ∈ e.relationFields) {key : String} (hkey : key ∈ s.listedKeys g) :
    ∃ f, e.field? key = some f ∧ f.isRelation = false := by
  have hnone := List.filterMap_eq_nil_iff.1 (List.flatMap_eq_nil_iff.1 h g hg) key hkey
  unfold keyProblem? at hnone
  split at hnone
  · cases hnone
  · next f hf =>
    split at hnone
    · cases hnone
    · next hrelation => exact ⟨f, hf, by simpa using hrelation⟩

theorem lastLister?_spec {s : Schema} {e : Entity} {name : String} {g : Field} (h : s.lastLister? e name = some g) :
    g ∈ e.relationFields ∧ name ∈ s.listedKeys g := by
  have hmem := List.mem_filter.1 (List.mem_of_getLast? h)
  exact ⟨hmem.1, List.contains_iff_mem.1 hmem.2⟩

/-- **One entity.** Binding fails with the first thing that is wrong with its keys, and otherwise binds them all. -/
theorem bindEntity_eq {s : Schema} {e : Entity} (hnames : (e.fields.map (·.name)).Nodup) :
    bindEntity s.relations e = unlessProblem (s.entityProblems e) (s.boundEntity e) := by
  unfold bindEntity
  rw [bindKeys_fields fun _ => rfl, keyUses_problems, foldl_linkField]
  cases hp : s.entityProblems e with
  | cons p ps => rfl
  | nil =>
    simp only [unlessProblem_nil, bind, Except.bind, boundEntity]
    refine congrArg (fun fields => Except.ok { e with fields }) (List.map_congr_left fun f hf => ?_)
    rw [linkAfter_keyUses, boundField]
    split
    · next hrelation =>
      -- a relation field is listed by none, since that would be a problem
      cases hl : s.lastLister? e f.name with
      | none => rfl
      | some g =>
        obtain ⟨hg, hkey⟩ := lastLister?_spec hl
        obtain ⟨f', hf', hscalar⟩ := scalar_of_listed hp hg hkey
        rw [field?_of_mem hnames hf, Option.some.injEq] at hf'
        rw [← hf', hrelation] at hscalar
        cases hscalar
    · cases s.lastLister? e f.name <;> rfl

/-! ## The schema -/

theorem firstRepeated_eq_some {names seen : List String} {name : String} (h : firstRepeated seen names = some name) :
    ∃ before after, names = before ++ name :: after ∧ before.Nodup ∧ (∀ x ∈ before, x ∉ seen) ∧
      (name ∈ seen ∨ name ∈ before) := by
  induction names generalizing seen with
  | nil => cases h
  | cons first names ih =>
    unfold firstRepeated at h
    split at h
    · next hseen =>
      cases h
      exact ⟨[], names, rfl, List.nodup_nil, by simp, Or.inl (List.contains_iff_mem.1 hseen)⟩
    · next hseen =>
      rw [List.contains_iff_mem] at hseen
      obtain ⟨before, after, rfl, hnodup, hnew, hname⟩ := ih h
      refine ⟨first :: before, after, rfl, ?_, ?_, ?_⟩
      · exact List.nodup_cons.2 ⟨fun hm => hnew first hm List.mem_cons_self, hnodup⟩
      · intro x hx
        rcases List.mem_cons.1 hx with rfl | hx
        · exact hseen
        · exact fun hm => hnew x hx (List.mem_cons_of_mem _ hm)
      · rcases hname with hname | hname
        · rcases List.mem_cons.1 hname with rfl | hname
          · exact Or.inr List.mem_cons_self
          · exact Or.inl hname
        · exact Or.inr (List.mem_cons_of_mem _ hname)

theorem firstRepeated_of_nodup {names seen : List String} (h : names.Nodup) (hnew : ∀ name ∈ names, name ∉ seen) :
    firstRepeated seen names = none := by
  cases hr : firstRepeated seen names with
  | none => rfl
  | some name =>
    obtain ⟨before, after, rfl, -, -, hname⟩ := firstRepeated_eq_some hr
    rcases hname with hname | hname
    · exact absurd hname (hnew name (by simp))
    · exact absurd rfl ((List.nodup_append.1 h).2.2 name hname name List.mem_cons_self)

/-- **Binding a schema** whose entities differ in name: the first problem, or all keys bound. -/
theorem bindKeys_eq {s : Schema} (hentities : (s.entities.map (·.name)).Nodup)
    (hfields : ∀ e ∈ s.entities, (e.fields.map (·.name)).Nodup) :
    s.bindKeys = unlessProblem s.keyProblems s.bound := by
  unfold bindKeys
  rw [firstRepeated_of_nodup hentities (by simp),
    mapM_unlessProblem fun e he => bindEntity_eq (hfields e he)]
  unfold keyProblems
  cases s.entities.flatMap s.entityProblems <;> rfl

/-! ## The bound schema -/

section Bound

variable {s : Schema} {e : Entity}

/-- binding a field changes nothing but its link -/
theorem boundField_link (s : Schema) (e : Entity) (f : Field) :
    s.boundField e f = { f with link := (s.boundField e f).link } := by
  unfold boundField
  split
  · rfl
  · split <;> rfl

theorem boundField_name (s : Schema) (e : Entity) (f : Field) : (s.boundField e f).name = f.name := by
  rw [boundField_link]

theorem boundField_isRelation (s : Schema) (e : Entity) (f : Field) : (s.boundField e f).isRelation = f.isRelation := by
  rw [boundField_link, Document.withLink_isRelation]

theorem boundField_of_relation {f : Field} (h : f.isRelation = true) : s.boundField e f = f := by
  rw [boundField, if_pos h]

theorem boundEntity_fields (s : Schema) (e : Entity) : (s.boundEntity e).fields = e.fields.map (s.boundField e) := rfl

theorem bound_entities (s : Schema) : s.bound.entities = s.entities.map s.boundEntity := rfl

theorem boundEntity_fieldNames (s : Schema) (e : Entity) :
    (s.boundEntity e).fields.map (·.name) = e.fields.map (·.name) := by
  rw [boundEntity_fields, List.map_map]
  apply List.map_congr_left
  intro f _
  rw [Function.comp_apply, boundField_name]

theorem bound_names (s : Schema) : s.bound.entities.map (·.name) = s.entities.map (·.name) := by
  rw [bound_entities, List.map_map]
  rfl

theorem boundEntity_relationFields (s : Schema) (e : Entity) :
    (s.boundEntity e).relationFields = e.relationFields := by
  unfold Entity.relationFields
  rw [boundEntity_fields, List.filter_map]
  have hsame : ((·.isRelation) ∘ s.boundField e : Field → Bool) = (·.isRelation) := by
    funext f
    rw [Function.comp_apply, boundField_isRelation]
  have hkeep : ∀ f ∈ e.fields.filter (·.isRelation), s.boundField e f = id f := by
    intro f hf
    exact boundField_of_relation (List.mem_filter.1 hf).2
  rw [hsame, List.map_congr_left hkeep, List.map_id]

theorem boundEntity_field? (s : Schema) (e : Entity) (key : String) :
    (s.boundEntity e).field? key = (e.field? key).map (s.boundField e) := by
  unfold Entity.field?
  rw [boundEntity_fields, List.find?_map]
  have hsame : ((fun f : Field => decide (f.name = key)) ∘ s.boundField e) = fun f => decide (f.name = key) := by
    funext f
    rw [Function.comp_apply, boundField_name]
  rw [hsame]

theorem keyProblem?_boundEntity (s : Schema) (e : Entity) (relationField key : String) :
    keyProblem? (s.boundEntity e) relationField key = keyProblem? e relationField key := by
  unfold keyProblem?
  rw [boundEntity_field?]
  cases e.field? key with
  | none => rfl
  | some f => simp only [Option.map_some, boundField_isRelation]; rfl

/-- what is wrong with the keys does not change when they are bound -/
theorem keyProblems_bound (s : Schema) : s.bound.keyProblems = s.keyProblems := by
  have hentity : ∀ e, s.bound.entityProblems (s.boundEntity e) = s.entityProblems e := by
    intro e
    unfold entityProblems
    rw [boundEntity_relationFields]
    simp only [funext (keyProblem?_boundEntity s e _)]
    rfl
  unfold keyProblems
  rw [bound, List.flatMap_map]
  exact congrArg (s.entities.flatMap ·) (funext hentity)

/-- binding gives a field the same link each time -/
theorem boundField_boundField (s : Schema) (e : Entity) (f : Field) :
    s.bound.boundField (s.boundEntity e) (s.boundField e f) = s.boundField e f := by
  by_cases h : f.isRelation = true
  · rw [boundField_of_relation h, boundField_of_relation h]
  · have hlast : s.bound.lastLister? (s.boundEntity e) f.name = s.lastLister? e f.name := by
      unfold lastLister?
      rw [boundEntity_relationFields]
      rfl
    have h' : ¬(s.boundField e f).isRelation = true := by rwa [boundField_isRelation]
    rw [boundField, if_neg h', boundField_name, hlast, boundField, if_neg h]
    cases s.lastLister? e f.name <;> rfl

theorem bound_bound (s : Schema) : s.bound.bound = s.bound := by
  have hentity : ∀ e, s.bound.boundEntity (s.boundEntity e) = s.boundEntity e := by
    intro e
    have hfields : (s.boundEntity e).fields.map (s.bound.boundField (s.boundEntity e)) = (s.boundEntity e).fields := by
      rw [boundEntity_fields, List.map_map]
      apply List.map_congr_left
      intro f _
      rw [Function.comp_apply, boundField_boundField]
    rw [boundEntity, hfields]
  have hentities : s.bound.entities.map s.bound.boundEntity = s.bound.entities := by
    rw [bound_entities, List.map_map]
    apply List.map_congr_left
    intro e _
    rw [Function.comp_apply, hentity]
  rw [bound, hentities]

/-- a scalar field that takes part in a relation shares it with the field that declares it and lists it -/
structure SharesRelation (s : Schema) (e : Entity) (f : Field) : Prop where
  listed : ∃ r, s.relationOf? f = some r ∧ f.name ∈ r.fields
  declared : ∃ g ∈ e.fields, g.isRelation = true ∧ g.link = f.link

/-- **Keys share the relation of the field that lists them**, when no scalar field took part in one before. -/
theorem bound_sharesRelation (hscalar : ∀ f ∈ e.fields, f.isRelation = false → f.link = .none) {f : Field}
    (hf : f ∈ (s.boundEntity e).fields) (hkey : f.isForeignKey = true) :
    SharesRelation s.bound (s.boundEntity e) f := by
  obtain ⟨f, hmem, rfl⟩ := List.mem_map.1 hf
  simp only [Field.isForeignKey, Bool.and_eq_true, Bool.not_eq_true', boundField_isRelation] at hkey
  obtain ⟨hrelation, hlinked⟩ := hkey
  obtain ⟨i, hi⟩ := Option.isSome_iff_exists.1 hlinked
  rw [relation?_eq_some] at hi
  cases hl : s.lastLister? e f.name with
  | none =>
    have hsame : s.boundField e f = f := by simp [boundField, hrelation, hl]
    rw [hsame, hscalar f hmem hrelation] at hi
    cases hi
  | some g =>
    obtain ⟨hg, hlists⟩ := lastLister?_spec hl
    have hlink : (s.boundField e f).link = g.link := by simp [boundField, hrelation, hl]
    obtain ⟨j, r, hj, hr, hname⟩ := listedKeys_bound hlists
    have hsame : s.bound.relationOf? (s.boundField e f) = s.relationOf? g := by
      unfold relationOf?
      rw [relation?_eq_some.2 (hlink.trans hj), relation?_eq_some.2 hj]
      rfl
    refine ⟨⟨r, hsame.trans hr, ?_⟩, ⟨g, ?_, (List.mem_filter.1 hg).2, hlink.symm⟩⟩
    · rwa [boundField_name]
    · rw [← boundEntity_relationFields s e] at hg
      exact (List.mem_filter.1 hg).1

end Bound

end Schema

/-! ## Documents -/

namespace Document

open Schema Text

theorem load_bound {strict : Bool} {source : String} {o : Outcome} (h : load strict source = .ok o) :
    ∃ s, WellRead (splitLines source.toList) s ∧ o.schema = s.bound := by
  obtain ⟨before, hread, hbind, -⟩ := load_ok h
  have hwell := (read_schemaInv hread).wellRead
  rw [bindKeys_eq (bindKeys_entities hbind).2 hwell.names] at hbind
  exact ⟨before.schema, hwell, (unlessProblem_eq_ok hbind).2⟩

/-- **Binding a schema that was read.** Entities that share a name are refused with the first name that repeats an
earlier one. Otherwise the first problem with a key is reported, by entity, relation field and listed name. Otherwise
the keys are bound, each to the last relation that lists it; every scalar field that takes part in a relation then
shares it with the field that declares it, and binding once more changes nothing. -/
theorem read_bindKeys (strict : Bool) (source : String) (o : Outcome) (h : read strict source = .ok o) :
    (¬(o.schema.entities.map (·.name)).Nodup →
      ∃ before name after, o.schema.entities.map (·.name) = before ++ name :: after ∧ before.Nodup ∧ name ∈ before ∧
        o.schema.bindKeys = .error (.duplicateEntity name)) ∧
    ((o.schema.entities.map (·.name)).Nodup →
      (∀ problem later, o.schema.keyProblems = problem :: later → o.schema.bindKeys = .error problem) ∧
      (o.schema.keyProblems = [] → o.schema.bindKeys = .ok o.schema.bound ∧
        (∀ e ∈ o.schema.bound.entities, ∀ f ∈ e.fields, f.isForeignKey = true →
          SharesRelation o.schema.bound e f) ∧
        o.schema.bound.bindKeys = .ok o.schema.bound)) := by
  have hwell := (read_schemaInv h).wellRead
  generalize o.schema = s at hwell
  refine ⟨fun hrepeats => ?_, fun hnames => ⟨fun problem later hproblems => ?_, fun hproblems => ⟨?_, ?_, ?_⟩⟩⟩
  · cases hr : firstRepeated [] (s.entities.map (·.name)) with
    | none => exact absurd (firstRepeated_eq_none hr).1 hrepeats
    | some name =>
      obtain ⟨before, after, hsplit, hnodup, -, hname⟩ := firstRepeated_eq_some hr
      refine ⟨before, name, after, hsplit, hnodup, hname.resolve_left List.not_mem_nil, ?_⟩
      simp [bindKeys, hr]
  · rw [bindKeys_eq hnames hwell.names, hproblems, unlessProblem_cons]
  · rw [bindKeys_eq hnames hwell.names, hproblems, unlessProblem_nil]
  · intro e he f hf hkey
    obtain ⟨e, hmem, rfl⟩ := List.mem_map.1 he
    exact bound_sharesRelation (hwell.scalars e hmem) hf hkey
  · have hnames' : (s.bound.entities.map (·.name)).Nodup := by rwa [bound_names]
    have hfields : ∀ e ∈ s.bound.entities, (e.fields.map (·.name)).Nodup := by
      intro e he
      obtain ⟨e, hmem, rfl⟩ := List.mem_map.1 he
      rw [boundEntity_fieldNames]
      exact hwell.names e hmem
    rw [bindKeys_eq hnames' hfields, keyProblems_bound, hproblems, unlessProblem_nil, bound_bound]

def sharedKeyDocument : String :=
  "model Seat \x7b\n  row Int\n  hall Hall @relation(fields: [row], references: [id])\n" ++
    "  play Play? @relation(fields: [row, number], references: [stage, no])\n  number Int\n\x7d\n" ++
    "model Hall \x7b\n  id Int @id\n  seats Seat[]\n\x7d\n"

def fieldLinks (s : Schema) : List (String × Link) := s.entities.flatMap fun e => e.fields.map fun f => (f.name, f.link)

/-- the shared key belongs to the second relation, and the schema stays as it is when it is bound again -/
theorem read_bindKeys_sharedKey : ∃ o, read false sharedKeyDocument = .ok o ∧ o.schema.keyProblems = [] ∧
    o.schema.bindKeys = .ok o.schema.bound ∧ o.schema.bound.bindKeys = .ok o.schema.bound ∧
    fieldLinks o.schema.bound = [("row", .bound 1), ("hall", .bound 0), ("play", .bound 1), ("number", .bound 1),
      ("id", .none), ("seats", .implicit)] := by
  have hdocument : (read false sharedKeyDocument).toOption.map (fun o => (o.schema.entities.map (·.name),
      o.schema.keyProblems, fieldLinks o.schema.bound)) = some (["Seat", "Hall"], [], [("row", .bound 1),
        ("hall", .bound 0), ("play", .bound 1), ("number", .bound 1), ("id", .none), ("seats", .implicit)]) := by
    decide +kernel
  cases ho : read false sharedKeyDocument with
  | error e => rw [ho] at hdocument; cases hdocument
  | ok o =>
    rw [ho] at hdocument
    simp only [Except.toOption, Option.map_some, Option.some.injEq, Prod.mk.injEq] at hdocument
    obtain ⟨hnames, hproblems, hlinks⟩ := hdocument
    have hnodup : (o.schema.entities.map (·.name)).Nodup := by rw [hnames]; decide
    obtain ⟨hbound, -, hagain⟩ := ((read_bindKeys false sharedKeyDocument o ho).2 hnodup).2 hproblems
    exact ⟨o, rfl, hproblems, hbound, hagain, hlinks⟩

end Document

end EntityScaffold

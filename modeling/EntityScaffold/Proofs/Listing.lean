import EntityScaffold.Proofs.PlanOutcome

/-!
What a plan says of an entity, against what it holds of it. An entity that is listed need not have a file: of the kinds
that are switched on, those that need an identifier are left out for an entity without one (`plan_lists`). Which of them
are, and what is said about it, is decided by the identifier alone: the marked field if it is a scalar, or the first
scalar field when none is marked (`plan_identifies`).
-/

namespace EntityScaffold

open Artifact

/-! ## Listed entities -/

section Blocks

variable {o : Options} {r : Renderer} {s : Schema} {e : Entity} {files : List PlannedFile}

theorem IsBlock.templates (h : IsBlock o r s e files) :
    files.map (·.template) = (Slot.all.filter (HasSlot o e)).map Slot.template := by
  obtain ⟨parts, hparts, hfiles⟩ := h
  rw [← entityParts_templates hparts]
  clear hparts
  induction hfiles with
  | nil => rfl
  | cons hf _ ih =>
    obtain ⟨content, -, hfile⟩ := bind_ok hf
    cases hfile
    rw [List.map_cons, List.map_cons, ih]

theorem Slot.mem_all (slot : Slot) : slot ∈ Slot.all := by cases slot <;> decide

theorem Slot.template_injective {slot slot' : Slot} (h : slot.template = slot'.template) : slot = slot' := by
  cases slot <;> cases slot' <;> first | rfl | cases h

/-- a file is in a block exactly if the entity has it -/
theorem IsBlock.mem_templates (h : IsBlock o r s e files) (slot : Slot) :
    slot.template ∈ files.map (·.template) ↔ HasSlot o e slot := by
  rw [h.templates, List.mem_map]
  constructor
  · rintro ⟨slot', hslot', htemplate⟩
    rw [← Slot.template_injective htemplate]
    simpa using (List.mem_filter.1 hslot').2
  · intro hslot
    exact ⟨slot, List.mem_filter.2 ⟨slot.mem_all, by simpa using hslot⟩, rfl⟩

theorem IsBlock.ne_nil_iff (h : IsBlock o r s e files) : files ≠ [] ↔ ∃ slot, HasSlot o e slot := by
  constructor
  · intro hne
    obtain ⟨f, hf⟩ := List.exists_mem_of_ne_nil files hne
    have hmem := List.mem_map_of_mem (f := fun f : PlannedFile => f.template) hf
    rw [h.templates] at hmem
    obtain ⟨slot, hslot, -⟩ := List.mem_map.1 hmem
    exact ⟨slot, by simpa using (List.mem_filter.1 hslot).2⟩
  · rintro ⟨slot, hslot⟩ rfl
    simpa using (h.mem_templates slot).2 hslot

end Blocks

theorem InBlocks.mem_listed {o : Options} {r : Renderer} {s : Schema} {names : List String} {p : Plan}
    {block : Entity → List PlannedFile} {generated : List Entity} (h : InBlocks o r s names p block generated)
    {e : Entity} (he : s.entity? e.name = some e) : e.name ∈ p.report.generated ↔ e ∈ generated := by
  rw [h.listed, List.mem_map]
  constructor
  · rintro ⟨x, hx, hname⟩
    have hfound := (emitted_selected o s names).found x (h.order.subset hx)
    rw [hname, he] at hfound
    exact Option.some.inj hfound ▸ hx
  · exact fun hmem => ⟨e, hmem, rfl⟩

theorem InBlocks.mem_files {o : Options} {r : Renderer} {s : Schema} {names : List String} {p : Plan}
    {block : Entity → List PlannedFile} {generated : List Entity} (h : InBlocks o r s names p block generated)
    {e : Entity} (he : e ∈ generated) {f : PlannedFile} (hf : f ∈ block e) : f ∈ p.files := by
  obtain ⟨index, -, hfiles⟩ := h.files
  rw [hfiles]
  exact List.mem_append_left _ (List.mem_flatMap.2 ⟨e, he, hf⟩)

/-- **Listed entities.** Every entity with a file in a plan is listed in its report, and a listed entity has a file
exactly if some kind is switched on whose files it can have: validators or forms, or, with an identifier, the service or
the endpoints. So where the files that list the entities are planned, all that they list have files. -/
theorem plan_lists (o : Options) (r : Renderer) (s : Schema) (names : List String) (p : Plan)
    (h : plan o r s names = .ok p) : ∃ block generated, InBlocks o r s names p block generated ∧
      (∀ e, s.entity? e.name = some e → (e ∈ generated ∧ block e ≠ [] ↔
        e.name ∈ p.report.generated ∧ ∃ slot, HasSlot o e slot)) ∧
      ((o.enabled .validation = true ∨ o.enabled .ui = true) → ∀ e ∈ generated, block e ≠ []) := by
  have hblocks := (plan_plannedFrom h).inBlocks
  refine ⟨_, _, hblocks, fun e he => ?_, fun hkind e he => ?_⟩
  · rw [hblocks.mem_listed he]
    exact and_congr_right fun hmem => (hblocks.built e hmem).ne_nil_iff
  · rw [(hblocks.built e he).ne_nil_iff]
    rcases hkind with hkind | hkind
    · exact ⟨.validators, hkind, nofun⟩
    · exact ⟨.forms, hkind, nofun⟩

def taggedSource : String :=
  "model Item \x7b\n  tags Tag[]\n\x7d\nmodel Tag \x7b\n  id Int @id\n\x7d\n"

def labelEntity : Entity := ⟨"Tag", 4, [idField]⟩

def taggedSchema : Schema :=
  ⟨[⟨"Item", 1, [⟨"tags", "Tag[]", false, false, false, false, none, none, .implicit⟩]⟩, labelEntity], [], []⟩

/-- a model that is listed and has a service -/
theorem plan_lists_tag : ∃ p, plan ⟨.topological, [.service]⟩ .json taggedSchema ["Tag"] = .ok p ∧
    p.report.generated = ["Tag"] ∧ p.files ≠ [] := by
  have hplan : (plan ⟨.topological, [.service]⟩ .json taggedSchema ["Tag"]).toOption.map (·.report.generated) =
      some ["Tag"] := by decide +kernel
  obtain ⟨p, hp, hgenerated⟩ := ok_of_toOption_map hplan
  obtain ⟨block, generated, hblocks, hlisted, -⟩ :=
    plan_lists ⟨.topological, [.service]⟩ .json taggedSchema ["Tag"] p hp
  have hslot : ∃ slot, HasSlot ⟨.topological, [.service]⟩ labelEntity slot := ⟨.services, by decide +kernel⟩
  obtain ⟨hmem, hne⟩ := (hlisted labelEntity (by decide +kernel)).2 ⟨by rw [hgenerated]; decide, hslot⟩
  obtain ⟨f, hf⟩ := List.exists_mem_of_ne_nil _ hne
  exact ⟨p, hp, hgenerated, List.ne_nil_of_mem (hblocks.mem_files hmem hf)⟩

/-- a model is listed in a plan without a single file -/
theorem plan_lists_nothing : ∃ outcome p, Document.load false taggedSource = .ok outcome ∧
    plan ⟨.topological, [.service]⟩ .json outcome.schema ["Item"] = .ok p ∧
    p.report.generated = ["Item"] ∧ p.files = [] := by
  have hload : (Document.load false taggedSource).toOption.map (·.schema) = some taggedSchema := by decide +kernel
  have hplan : (plan ⟨.topological, [.service]⟩ .json taggedSchema ["Item"]).toOption.map
      (fun p => (p.report.generated, p.files)) = some (["Item"], []) := by decide +kernel
  obtain ⟨outcome, hload, hschema⟩ := ok_of_toOption_map hload
  obtain ⟨p, hp, hparts⟩ := ok_of_toOption_map hplan
  obtain ⟨hgenerated, hfiles⟩ := Prod.mk.inj hparts
  rw [← hschema] at hp
  exact ⟨outcome, p, hload, hp, hgenerated, hfiles⟩

/-! ## Identifiers -/

/-- an entity that can be identified: it has a scalar field, and a field marked as identifier is one -/
def Identified (e : Entity) : Prop := e.scalarFields ≠ [] ∧ ∀ f, e.idField? = some f → f.isRelation = false

/-- the type of a relation field is declared, as an entity or as an enum -/
def HasTarget (s : Schema) (f : Field) : Prop := (s.entity? f.baseType).isSome = true ∨ s.isEnum f.baseType = true

instance (s : Schema) (f : Field) : Decidable (HasTarget s f) := inferInstanceAs (Decidable (_ ∨ _))

/-- what a plan holds and says of an entity, by its identifier -/
structure ByIdentifier (e : Entity) (files : List PlannedFile) (warnings : List Warning) : Prop where
  service : .service ∈ files.map (·.template) ↔ Identified e
  collection : .endpointCollection ∈ files.map (·.template) ↔ Identified e
  item : .endpointItem ∈ files.map (·.template) ↔ Identified e
  none : .noIdentifier e.name ∈ warnings ↔ ¬Identified e
  missing : ∀ surrogate, .missingIdentifier e.name surrogate ∈ warnings ↔
    e.idField? = Option.none ∧ e.scalarFields.head?.map (·.name) = some surrogate

theorem scalar?_isSome {f : Field} : f.scalar?.isSome = true ↔ f.isRelation = false := by
  unfold Field.isRelation
  cases f.scalar? <;> simp

theorem head?_scalarFields {e : Entity} {f : Field} (h : e.scalarFields.head? = some f) :
    f ∈ e.fields ∧ f.isRelation = false := by
  have hmem := List.mem_filter.1 (List.mem_of_head? h)
  exact ⟨hmem.1, by simpa using hmem.2⟩

theorem identifier?_isSome_iff (e : Entity) : (identifier? e).isSome = true ↔ Identified e := by
  unfold identifier? Identified
  cases hid : e.idField? with
  | some f =>
    have hmem : f ∈ e.fields := List.mem_of_find?_eq_some hid
    simp only [Option.isSome_map, scalar?_isSome, Option.some.injEq, forall_eq']
    refine ⟨fun hscalar => ⟨?_, hscalar⟩, And.right⟩
    exact List.ne_nil_of_mem (List.mem_filter.2 ⟨hmem, by simp [hscalar]⟩)
  | none =>
    cases hhead : e.scalarFields.head? with
    | none => simp [List.head?_eq_none_iff.1 hhead]
    | some f =>
      have hscalar := scalar?_isSome.2 (head?_scalarFields hhead).2
      have hne : e.scalarFields ≠ [] := by
        rintro hnil
        rw [hnil] at hhead
        cases hhead
      simp [hscalar, hne]

theorem noIdentifier_mem_notes (e : Entity) : .noIdentifier e.name ∈ identifierNotes e ↔ ¬Identified e := by
  rw [← identifier?_isSome_iff]
  unfold identifierNotes
  cases hid : identifier? e with
  | none => simp
  | some id => cases hs : id.surrogate <;> simp [hs]

theorem missingIdentifier_mem_notes (e : Entity) (surrogate : String) :
    .missingIdentifier e.name surrogate ∈ identifierNotes e ↔
      e.idField? = none ∧ e.scalarFields.head?.map (·.name) = some surrogate := by
  unfold identifierNotes identifier?
  cases hid : e.idField? with
  | some f => cases hscalar : f.scalar? <;> simp [hscalar]
  | none =>
    cases hhead : e.scalarFields.head? with
    | none => simp
    | some f =>
      obtain ⟨scalar, hscalar⟩ := Option.isSome_iff_exists.1 (scalar?_isSome.2 (head?_scalarFields hhead).2)
      simp [hscalar, eq_comm]

/-! ## Plans of everything -/

section Everything

variable {o : Options} {r : Renderer} {s : Schema}

/-- a field whose target is declared fails for want of a plural alone -/
theorem Fate.ofField_ne_flawed {spelled : String → Bool} {f : Field} (h : f.isRelation = true → HasTarget s f) :
    ofField s spelled f ≠ .flawed := by
  unfold ofField
  split
  · next hf =>
    rcases h hf with htarget | htarget
    · obtain ⟨related, hrelated⟩ := Option.isSome_iff_exists.1 htarget
      rw [hrelated]
      dsimp only
      split <;> exact nofun
    · split
      · split <;> exact nofun
      · rw [if_pos htarget]
        exact nofun
  · exact nofun

/-- an entity whose fields have their targets is built, or fails for want of a plural -/
theorem entityFate_built {e : Entity} (h : ∀ f ∈ e.relationFields, HasTarget s f)
    (hstuck : entityFate o s e ≠ .stuck) : entityFate o s e = .built := by
  have hflawed : entityFate o s e ≠ .flawed :=
    Fate.entityFate_ne (by decide) (isSpelled_of_fate hstuck) fun _ _ f hf =>
      Fate.ofField_ne_flawed fun hrelation => h f (List.mem_filter.2 ⟨hf, hrelation⟩)
  match hfate : entityFate o s e with
  | .built => rfl
  | .flawed => exact absurd hfate hflawed
  | .stuck => exact absurd hfate hstuck

/-- a renderer that never fails -/
def Renderer.IsTotal (r : Renderer) : Prop := ∀ template model, ∃ content, r.render template model = .ok content

theorem Renderer.IsTotal.file (h : r.IsTotal) (p : Part) : ∃ f, r.file p = .ok f := by
  obtain ⟨content, hcontent⟩ := h p.template p.model
  exact ⟨_, by unfold Renderer.file; rw [hcontent]; rfl⟩

theorem Renderer.IsTotal.indexFile (h : r.IsTotal) {kind : ArtifactKind} {template : Template} {stem : String}
    {index : IndexModel} {w : GenerateError} : EntityScaffold.indexFile o r kind template stem index ≠ .error w := by
  obtain ⟨f, hf⟩ := h.file ⟨template, stem, .index index⟩
  unfold EntityScaffold.indexFile
  rw [hf]
  split <;> simp

/-- an entity that is neither stuck nor flawed is generated, and its identifier is all that is said about it -/
theorem planEntity_generated (hr : r.IsTotal) {e : Entity} (h : entityFate o s e = .built) :
    ∃ files, planEntity o r s e = .ok (.generated files (identifierNotes e)) := by
  rw [← Fate.of_entityParts] at h
  unfold planEntity
  match hparts : entityParts o s e, h with
  | .ok parts, _ =>
    have hfiles : ∀ p ∈ parts, ∃ f, entityFile r e p = .ok f := by
      intro p _
      obtain ⟨f, hf⟩ := hr.file p
      exact ⟨f, by rw [entityFile, hf]; rfl⟩
    obtain ⟨files, hfiles⟩ := mapM_isOk hfiles
    exact ⟨files, by dsimp only; rw [hfiles]⟩

theorem plan_isOk (hr : r.IsTotal) {names : List String} (h : ¬∃ e ∈ emitted o s names, entityFate o s e = .stuck) :
    ∃ p, plan o r s names = .ok p := by
  cases hplan : plan o r s names with
  | ok p => exact ⟨p, rfl⟩
  | error w =>
    unfold plan planWith at hplan
    split at hplan
    · cases hplan
    · obtain ⟨_, _, _, _, hfail⟩ := planEmission_error (fun e he hfate => h ⟨e, he, hfate⟩) hplan
      exact absurd hfail hr.indexFile

end Everything

/-- **Identifiers.** A plan of everything, with a renderer that never fails, is refused only for want of a plural. In a
plan that is made, every entity that was asked for and whose relation fields have their targets is listed; its service
and its endpoints are planned exactly if it can be identified, it is reported as having no identifier exactly if it
cannot be, and a surrogate is reported exactly if no field is marked, the first scalar field by name. -/
theorem plan_identifies (o : Options) (r : Renderer) (s : Schema) (names : List String)
    (hkinds : ∀ kind, o.enabled kind = true) (hrender : r.IsTotal) :
    (∃ e ∈ emitted o s names, entityFate o s e = .stuck) ∨
    ∃ p block generated, plan o r s names = .ok p ∧ InBlocks o r s names p block generated ∧
      ∀ e, s.entity? e.name = some e → e.name ∈ names → (∀ f ∈ e.relationFields, HasTarget s f) →
        e ∈ generated ∧ ByIdentifier e (block e) p.report.warnings := by
  by_cases hstuck : ∃ e ∈ emitted o s names, entityFate o s e = .stuck
  · exact Or.inl hstuck
  obtain ⟨p, hp⟩ := plan_isOk hrender hstuck
  have hplanned := plan_plannedFrom hp
  refine Or.inr ⟨p, _, _, hp, hplanned.inBlocks, fun e he hname htargets => ?_⟩
  have hemitted : e ∈ emitted o s names := (mem_emitted he).2 hname
  have hbuilt := entityFate_built htargets fun hfate => hstuck ⟨e, hemitted, hfate⟩
  obtain ⟨files, hfiles⟩ := planEntity_generated hrender hbuilt
  have hresult : resultOf o r s e = .generated files (identifierNotes e) :=
    Except.ok.inj ((hplanned.results e hemitted).symm.trans hfiles)
  have hgenerated : e ∈ succeeded o r s names := List.mem_filter.2 ⟨hemitted, by rw [hresult]; rfl⟩
  have hown := hplanned.own hemitted
  rw [hresult] at hown
  have hwarning : ∀ w : Warning, w.owner? = some e.name → (w ∈ p.report.warnings ↔ w ∈ identifierNotes e) := by
    intro w hw
    have hmem : w ∈ p.report.own e.name ↔ w ∈ identifierNotes e := by rw [hown]; rfl
    rw [← hmem, Report.own, List.mem_filter]
    simp [hw]
  have hslot : ∀ slot : Slot, slot.isIdentified = true →
      (slot.template ∈ (resultOf o r s e).files.map (·.template) ↔ Identified e) := by
    intro slot hslot
    rw [(hplanned.inBlocks.built e hgenerated).mem_templates, HasSlot, ← identifier?_isSome_iff]
    simp [hkinds, hslot]
  refine ⟨hgenerated, hslot .services rfl, hslot .collection rfl, hslot .item rfl, ?_, fun surrogate => ?_⟩
  · rw [hwarning _ rfl, noIdentifier_mem_notes]
  · rw [hwarning _ rfl, missingIdentifier_mem_notes]

def ownedSource : String :=
  "model Account \x7b\n  owner User @id\n  name String\n\x7d\nmodel User \x7b\n  key Int\n\x7d\n"

def accountEntity : Entity :=
  ⟨"Account", 1, [⟨"owner", "User", true, false, false, false, none, none, .implicit⟩,
    ⟨"name", "String", false, false, false, false, none, none, .none⟩]⟩

def userEntity : Entity := ⟨"User", 5, [⟨"key", "Int", false, false, false, false, none, none, .none⟩]⟩

def ownedSchema : Schema := ⟨[accountEntity, userEntity], [], []⟩

/-- a model is identified by its first scalar field, and that is said -/
theorem plan_identifies_user : ∃ p, plan .all .json ownedSchema ["User"] = .ok p ∧
    .service ∈ p.files.map PlannedFile.template ∧ .missingIdentifier "User" "key" ∈ p.report.warnings ∧
    .noIdentifier "User" ∉ p.report.warnings := by
  have hkinds : ∀ kind, Options.all.enabled kind = true := fun kind => by cases kind <;> decide
  have hrender : Renderer.json.IsTotal := fun _ _ => ⟨_, rfl⟩
  have hfates : ¬∃ e ∈ emitted .all ownedSchema ["User"], entityFate .all ownedSchema e = .stuck := by decide +kernel
  have hscalars : userEntity.scalarFields ≠ [] := by decide +kernel
  have hrelations : userEntity.relationFields = [] := by decide +kernel
  have hmarked : userEntity.idField? = none := by decide +kernel
  have hidentified : Identified userEntity := ⟨hscalars, fun f hf => by rw [hmarked] at hf; cases hf⟩
  rcases plan_identifies .all .json ownedSchema ["User"] hkinds hrender with hstuck | ⟨p, block, _, hp, hblocks, hall⟩
  · exact absurd hstuck hfates
  · obtain ⟨hmem, hservice, -, -, hnone, hmissing⟩ :=
      hall userEntity (by decide +kernel) (by decide) (by simp [hrelations])
    obtain ⟨f, hf, htemplate⟩ := List.mem_map.1 (hservice.2 hidentified)
    refine ⟨p, hp, List.mem_map.2 ⟨f, hblocks.mem_files hmem hf, htemplate⟩, ?_, fun hw => hnone.1 hw hidentified⟩
    exact (hmissing "key").2 ⟨hmarked, by decide +kernel⟩

/-- a model with a scalar field that is reported as having none, without service and endpoints -/
theorem plan_misses_account : ∃ outcome p, Document.load false ownedSource = .ok outcome ∧
    plan .all .json outcome.schema ["Account"] = .ok p ∧ accountEntity ∈ outcome.schema.entities ∧
    accountEntity.scalarFields ≠ [] ∧
    p.files.map (·.template) = [.validation, .uiFields, .validationIndex, .uiResources] ∧
    p.report.warnings.map Warning.message =
      ["model `Account` has no scalar field; skipped service and endpoint"] := by
  have hload : (Document.load false ownedSource).toOption.map (·.schema) = some ownedSchema := by decide +kernel
  have hplan : (plan .all .json ownedSchema ["Account"]).toOption.map (fun p =>
      (p.files.map (·.template), p.report.warnings.map Warning.message)) =
        some ([.validation, .uiFields, .validationIndex, .uiResources],
          ["model `Account` has no scalar field; skipped service and endpoint"]) := by decide +kernel
  obtain ⟨outcome, hload, hschema⟩ := ok_of_toOption_map hload
  obtain ⟨p, hp, hparts⟩ := ok_of_toOption_map hplan
  obtain ⟨htemplates, hwarnings⟩ := Prod.mk.inj hparts
  rw [← hschema] at hp
  refine ⟨outcome, p, hload, hp, ?_, by decide +kernel, htemplates, hwarnings⟩
  rw [hschema]
  exact List.mem_cons_self

end EntityScaffold

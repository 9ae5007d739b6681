import EntityScaffold.Proofs.Loading
import EntityScaffold.Proofs.Scheduling
import Mathlib.Data.List.Perm.Basic

/-!
What a plan consists of. `entityParts_ok` and `planEntity_files` say which files an entity has, one `Slot` for
each; `plan_ok` puts a whole plan together: the files of the generated entities in the order of emission, then the
files that list them. The generated entities are entities of the schema, each once (`PlanOf`).
-/

namespace EntityScaffold

open Artifact

/-! ## Selection and emission -/

namespace Emission

theorem extractFirst_perm {p : Entity → Bool} {entities rest : List Entity} {e : Entity}
    (h : extractFirst p entities = some (e, rest)) : (e :: rest).Perm entities := by
  induction entities generalizing e rest with
  | nil => cases h
  | cons first entities ih =>
    unfold extractFirst at h
    split at h
    · cases h; exact .refl _
    · obtain ⟨⟨found, others⟩, hfound, h⟩ := Option.map_eq_some_iff.1 h
      cases h
      exact (List.Perm.swap _ _ _).trans ((ih hfound).cons first)

theorem choose?_perm {all remaining : List Entity} {done : List String} {c : Choice}
    (h : choose? all done remaining = some c) : (c.entity :: c.remaining).Perm remaining := by
  unfold choose? at h
  split at h
  · next he => cases h; exact extractFirst_perm he
  · obtain ⟨⟨e, rest⟩, he, h⟩ := Option.map_eq_some_iff.1 h
    cases h
    exact extractFirst_perm he

/-- what is emitted is among what remained, nothing twice -/
theorem emitFrom_subperm (all : List Entity) (n : Nat) (done : List String) (remaining : List Entity) :
    (emitFrom all n done remaining).entities.Subperm remaining := by
  induction n generalizing done remaining with
  | zero => exact List.nil_subperm
  | succ n ih =>
    unfold emitFrom
    split
    · exact List.nil_subperm
    · next c hc =>
      exact ((List.subperm_cons c.entity).2 (ih _ _)).trans (choose?_perm hc).subperm

theorem insertByFanOut_perm (e : Entity) (entities : List Entity) :
    (insertByFanOut e entities).Perm (e :: entities) := by
  induction entities with
  | nil => exact .refl _
  | cons other entities ih =>
    unfold insertByFanOut
    split
    · exact (ih.cons other).trans (.swap _ _ _)
    · exact .refl _

theorem byFanOut_perm (entities : List Entity) : (byFanOut entities).entities.Perm entities := by
  unfold byFanOut
  induction entities with
  | nil => exact .refl _
  | cons e entities ih => exact (insertByFanOut_perm e _).trans (ih.cons e)

/-- emission adds no entity and repeats none -/
theorem order_subperm (strategy : Strategy) (entities : List Entity) :
    (order strategy entities).entities.Subperm entities := by
  cases strategy with
  | fanOut => exact (byFanOut_perm entities).subperm
  | topological => exact emitFrom_subperm _ _ _ _

end Emission

/-- entities that a schema finds under their own names, each once -/
structure Selected (s : Schema) (entities : List Entity) : Prop where
  found : ∀ e ∈ entities, s.entity? e.name = some e
  once : (entities.map (·.name)).Nodup

theorem entity?_name {s : Schema} {name : String} {e : Entity} (h : s.entity? name = some e) : e.name = name := by
  simpa using List.find?_some h

theorem entity?_mem {s : Schema} {name : String} {e : Entity} (h : s.entity? name = some e) : e ∈ s.entities :=
  List.mem_of_find?_eq_some h

theorem Selected.add {s : Schema} {chosen : Selection} (h : Selected s chosen.entities) (name : String) :
    Selected s (chosen.add s name).entities := by
  unfold Selection.add
  split
  · exact h
  · next e he =>
    split
    · exact h
    · next hnew =>
      refine ⟨fun x hx => ?_, ?_⟩
      · rcases List.mem_append.1 hx with hx | hx
        · exact h.found x hx
        · rw [List.mem_singleton.1 hx, entity?_name he]
          exact he
      · rw [List.map_append]
        refine h.once.append (List.nodup_singleton _) ?_
        simpa using hnew

theorem select_selected (s : Schema) (names : List String) : Selected s (s.select names).entities := by
  have hfold : ∀ chosen : Selection, Selected s chosen.entities →
      Selected s (names.foldl (Selection.add s) chosen).entities := by
    induction names with
    | nil => exact fun _ h => h
    | cons name names ih => exact fun _ h => ih _ (h.add name)
  exact hfold ⟨[], []⟩ ⟨by simp, by simp⟩

theorem Selected.subperm {s : Schema} {entities entities' : List Entity} (h : Selected s entities)
    (hsub : entities'.Subperm entities) : Selected s entities' := by
  obtain ⟨l, hperm, hl⟩ := hsub
  refine ⟨fun e he => h.found e (hl.subset (hperm.mem_iff.2 he)), ?_⟩
  exact (hperm.map _).nodup_iff.1 (h.once.sublist (hl.map _))

theorem Selected.sublist {s : Schema} {entities entities' : List Entity} (h : Selected s entities)
    (hsub : entities'.Sublist entities) : Selected s entities' := h.subperm hsub.subperm

/-! ## One entity -/

/-- the files that an entity can have -/
inductive Slot
  | validators
  | services
  | collection
  | item
  | forms
deriving DecidableEq, Repr

/-- the kind of artifact that a file belongs to -/
def Slot.kind : Slot → ArtifactKind
  | .validators => .validation
  | .services => .service
  | .collection | .item => .endpoint
  | .forms => .ui

/-- the file is there only for an entity with an identifier -/
def Slot.isIdentified : Slot → Bool
  | .services | .collection | .item => true
  | .validators | .forms => false

/-- the files of an entity in their order -/
def Slot.all : List Slot := [.validators, .services, .collection, .item, .forms]

/-- the path of a file without its extension -/
def Slot.stem (n : Names) (field : String) : Slot → String
  | .validators => "validation/" ++ n.fileStem
  | .services => "services/" ++ n.fileStem
  | .collection => "api/" ++ n.resource ++ "/index"
  | .item => "api/" ++ n.resource ++ "/[" ++ field ++ "]"
  | .forms => "ui/" ++ n.fileStem

/-- the name of the identifier of an entity, if there is one -/
def identifierField (e : Entity) : String := ((identifier? e).map (·.field)).getD ""

/-- the entity has the file: its kind is switched on, and an identifier is there where it is needed -/
def HasSlot (o : Options) (e : Entity) (slot : Slot) : Prop :=
  o.enabled slot.kind = true ∧ (slot.isIdentified = true → (identifier? e).isSome = true)

instance (o : Options) (e : Entity) : DecidablePred (HasSlot o e) := fun _ => inferInstanceAs (Decidable (_ ∧ _))

def Renderer.path (r : Renderer) (stem : String) : String := stem ++ "." ++ r.extension

def entityPaths (o : Options) (r : Renderer) (e : Entity) (n : Names) : List String :=
  (Slot.all.filter (HasSlot o e)).map fun slot => r.path (slot.stem n (identifierField e))

/-- the template that a file is rendered with -/
def Slot.template : Slot → Template
  | .validators => .validation
  | .services => .service
  | .collection => .endpointCollection
  | .item => .endpointItem
  | .forms => .uiFields

def Part.outline (p : Part) : Template × String := (p.template, p.stem)

/-- a file but for the model it shows -/
def Slot.outline (n : Names) (field : String) (slot : Slot) : Template × String := (slot.template, slot.stem n field)

/-- the outlines of the parts of a kind do not depend on the model that is built for it -/
theorem partsOf_outlines {α : Type} {o : Options} {kind : ArtifactKind} {build : Build α} {parts : α → List Part}
    {ps : List Part} (h : partsOf o kind (build >>= fun m => .ok (parts m)) = .ok ps)
    {outlines : List (Template × String)} (houtlines : ∀ m, (parts m).map Part.outline = outlines) :
    ps.map Part.outline = if o.enabled kind = true then outlines else [] := by
  unfold partsOf at h
  split at h
  · next hk =>
    obtain ⟨m, -, hm⟩ := bind_ok h
    cases hm
    rw [if_pos hk, houtlines]
  · next hk => cases h; rw [if_neg hk]; rfl

theorem namesOf_ok {declared : String} {n : Names} (h : namesOf declared = .ok n) : Names.of? declared = some n := by
  unfold namesOf at h
  split at h
  · next hn => cases h; exact hn
  · cases h

theorem identifiedParts_outlines {o : Options} {s : Schema} {e : Entity} {n : Names} {id : Identifier}
    {parts : List Part} (h : identifiedParts o s e n id = .ok parts) :
    parts.map Part.outline =
      (if o.enabled .service = true then [Slot.services.outline n id.field] else []) ++
      (if o.enabled .endpoint = true then [Slot.collection.outline n id.field, Slot.item.outline n id.field]
        else []) := by
  obtain ⟨service, hservice, h⟩ := bind_ok h
  obtain ⟨endpoint, hendpoint, h⟩ := bind_ok h
  cases h
  have h1 : service.map Part.outline = if o.enabled .service = true then [Slot.services.outline n id.field] else [] :=
    partsOf_outlines hservice fun _ => rfl
  have h2 : endpoint.map Part.outline =
      if o.enabled .endpoint = true then [Slot.collection.outline n id.field, Slot.item.outline n id.field] else [] :=
    partsOf_outlines hendpoint fun _ => rfl
  rw [List.map_append, h1, h2]

theorem entityParts_outlines {o : Options} {s : Schema} {e : Entity} {parts : List Part}
    (h : entityParts o s e = .ok parts) : ∃ n, Names.of? e.name = some n ∧
      parts.map Part.outline = (Slot.all.filter (HasSlot o e)).map (Slot.outline n (identifierField e)) := by
  obtain ⟨n, hn, h⟩ := bind_ok h
  obtain ⟨validation, hvalidation, h⟩ := bind_ok h
  refine ⟨n, namesOf_ok hn, ?_⟩
  have h1 : validation.map Part.outline = if o.enabled .validation = true then [Slot.validators.outline n ""] else [] :=
    partsOf_outlines hvalidation fun _ => rfl
  cases hid : identifier? e with
  | none =>
    rw [hid] at h
    obtain ⟨identified, hidentified, h⟩ := bind_ok h
    obtain ⟨forms, hforms, h⟩ := bind_ok h
    cases hidentified
    cases h
    have h3 : forms.map Part.outline = if o.enabled .ui = true then [Slot.forms.outline n ""] else [] :=
      partsOf_outlines hforms fun _ => rfl
    rw [List.map_append, List.map_append, h1, h3]
    cases hv : o.enabled .validation <;> cases hu : o.enabled .ui <;>
      simp [Slot.all, HasSlot, Slot.kind, Slot.isIdentified, hid, hv, hu, Slot.outline, Slot.stem]
  | some id =>
    rw [hid] at h
    obtain ⟨identified, hidentified, h⟩ := bind_ok h
    obtain ⟨forms, hforms, h⟩ := bind_ok h
    cases h
    have h3 : forms.map Part.outline = if o.enabled .ui = true then [Slot.forms.outline n ""] else [] :=
      partsOf_outlines hforms fun _ => rfl
    have hfield : identifierField e = id.field := by rw [identifierField, hid]; rfl
    rw [List.map_append, List.map_append, h1, identifiedParts_outlines hidentified, h3, hfield]
    cases hv : o.enabled .validation <;> cases hs : o.enabled .service <;> cases he : o.enabled .endpoint <;>
      cases hu : o.enabled .ui <;>
        simp [Slot.all, HasSlot, Slot.kind, Slot.isIdentified, hid, hv, hs, he, hu, Slot.outline, Slot.stem]

/-- the parts of an entity, by the stems of their files -/
theorem entityParts_ok {o : Options} {s : Schema} {e : Entity} {parts : List Part} (h : entityParts o s e = .ok parts) :
    ∃ n, Names.of? e.name = some n ∧
      parts.map (·.stem) = (Slot.all.filter (HasSlot o e)).map (Slot.stem n (identifierField e)) := by
  obtain ⟨n, hn, houtlines⟩ := entityParts_outlines h
  have hstems := congrArg (List.map Prod.snd) houtlines
  rw [List.map_map, List.map_map] at hstems
  exact ⟨n, hn, hstems⟩

theorem entityParts_templates {o : Options} {s : Schema} {e : Entity} {parts : List Part}
    (h : entityParts o s e = .ok parts) :
    parts.map (·.template) = (Slot.all.filter (HasSlot o e)).map Slot.template := by
  obtain ⟨n, -, houtlines⟩ := entityParts_outlines h
  have htemplates := congrArg (List.map Prod.fst) houtlines
  rw [List.map_map, List.map_map] at htemplates
  exact htemplates

theorem file_ok {r : Renderer} {p : Part} {f : PlannedFile} (h : r.file p = .ok f) : f.path = r.path p.stem := by
  obtain ⟨content, -, h⟩ := bind_ok h
  cases h
  rfl

theorem mapM_entityFile {r : Renderer} {e : Entity} {parts : List Part} {files : List PlannedFile}
    (h : parts.mapM (entityFile r e) = .ok files) : files.map (·.path) = parts.map fun p => r.path p.stem := by
  have hfiles := mapM_ok h
  clear h
  induction hfiles with
  | nil => rfl
  | cons hf _ ih => rw [List.map_cons, List.map_cons, ih, file_ok (mapError_ok hf)]

theorem planEntity_files {o : Options} {r : Renderer} {s : Schema} {e : Entity} {result : EntityResult}
    (h : planEntity o r s e = .ok result) :
    if result.isGenerated = true then
      ∃ n, Names.of? e.name = some n ∧ result.files.map (·.path) = entityPaths o r e n
    else result.files = [] := by
  unfold planEntity at h
  split at h
  · cases h
  · cases h; rfl
  · next parts hparts =>
    obtain ⟨n, hn, hstems⟩ := entityParts_ok hparts
    split at h
    · cases h; rfl
    · next files hfiles =>
      cases h
      refine ⟨n, hn, ?_⟩
      rw [EntityResult.files, mapM_entityFile hfiles, entityPaths]
      have := congrArg (List.map r.path) hstems
      rwa [List.map_map, List.map_map] at this

/-! ## Whole plans -/

/-- the paths of the files that list the entities -/
def indexPaths (o : Options) (r : Renderer) : List String :=
  (if o.enabled .validation = true then [r.path "validation/index"] else []) ++
    (if o.enabled .ui = true then [r.path "ui/resources"] else [])

theorem indexFile_ok {o : Options} {r : Renderer} {kind : ArtifactKind} {template : Template} {stem : String}
    {index : IndexModel} {files : List PlannedFile} (h : indexFile o r kind template stem index = .ok files) :
    files.map (·.path) = if o.enabled kind = true then [r.path stem] else [] := by
  unfold indexFile at h
  split at h
  · next hk =>
    rw [if_pos hk]
    split at h
    · next f hf => cases h; rw [List.map_singleton, file_ok hf]
    · cases h
  · next hk => rw [if_neg hk]; cases h; rfl

/-- the spellings of an entity that was generated -/
def spellings (e : Entity) : Names := (Names.of? e.name).getD ⟨"", "", "", "", "", ""⟩

/-- what a plan for `names` holds: the generated entities are entities of the schema, each once; their files stand
one entity after the other, and the files that list them come last -/
structure PlanOf (o : Options) (r : Renderer) (s : Schema) (names : List String) (p : Plan) (generated : List Entity) :
    Prop where
  asked : names = [] → generated = []
  selected : Selected s generated
  spelled : ∀ e ∈ generated, Names.of? e.name = some (spellings e)
  listed : p.report.generated = generated.map (·.name)
  paths : p.files.map (·.path) = generated.flatMap (fun e => entityPaths o r e (spellings e)) ++
    if names = [] then [] else indexPaths o r

/-- the entities that were generated, and their files -/
theorem results_paths {o : Options} {r : Renderer} {s : Schema} {entities : List Entity} {results : List EntityResult}
    (h : List.Forall₂ (fun e result => planEntity o r s e = .ok result) entities results) :
    let generated := ((entities.zip results).filter (·.2.isGenerated)).map (·.1)
    generated.Sublist entities ∧ (∀ e ∈ generated, Names.of? e.name = some (spellings e)) ∧
      (results.flatMap EntityResult.files).map (·.path) =
        generated.flatMap fun e => entityPaths o r e (spellings e) := by
  induction h with
  | nil => simp
  | @cons e result entities results he _ ih =>
    obtain ⟨hsub, hspelled, hpaths⟩ := ih
    have hfiles := planEntity_files he
    intro generated
    rw [List.flatMap_cons, List.map_append, hpaths]
    split at hfiles
    · next hg =>
      obtain ⟨n, hn, hfiles⟩ := hfiles
      have hspell : spellings e = n := by rw [spellings, hn]; rfl
      have hgenerated : generated = e :: ((entities.zip results).filter (·.2.isGenerated)).map (·.1) := by
        simp [generated, hg]
      rw [hgenerated, List.flatMap_cons, hfiles, hspell]
      refine ⟨hsub.cons_cons e, fun x hx => ?_, rfl⟩
      rcases List.mem_cons.1 hx with rfl | hx
      · rw [hspell, hn]
      · exact hspelled x hx
    · next hg =>
      have hgenerated : generated = ((entities.zip results).filter (·.2.isGenerated)).map (·.1) := by
        simp [generated, hg]
      rw [hgenerated, hfiles]
      exact ⟨hsub.cons e, hspelled, rfl⟩

/-- the steps of a plan that is made: what becomes of each entity, then the files that list the generated ones -/
theorem planEmission_ok {schedule : Schedule} {o : Options} {r : Renderer} {s : Schema} {unknown : List String}
    {emission : Emission} {p : Plan} (h : planEmission schedule o r s unknown emission = .ok p) :
    ∃ results generated index validators resources,
      emission.entities.mapM (planEntity o r s) = .ok results ∧
      generated = ((emission.entities.zip results).filter (·.2.isGenerated)).map (·.1) ∧
      indexModel generated = .ok index ∧
      indexFile o r .validation .validationIndex "validation/index" index = .ok validators ∧
      indexFile o r .ui .uiResources "ui/resources" index = .ok resources ∧
      p = {
        files := results.flatMap EntityResult.files ++ validators ++ resources
        report := {
          generated := generated.map (·.name)
          written := []
          warnings := unknown.map .unknownEntity ++ emission.cycleBreaks.map .cycle
            ++ results.flatMap EntityResult.warnings } } := by
  rw [planEmission_eq] at h
  obtain ⟨results, hresults, h⟩ := bind_ok h
  obtain ⟨index, hindex, h⟩ := bind_ok h
  obtain ⟨validators, hvalidators, h⟩ := bind_ok h
  obtain ⟨resources, hresources, h⟩ := bind_ok h
  cases h
  exact ⟨results, _, index, validators, resources, hresults, rfl, hindex, hvalidators, hresources, rfl⟩

/-- **A plan taken apart.** -/
theorem plan_ok {o : Options} {r : Renderer} {s : Schema} {names : List String} {p : Plan}
    (h : plan o r s names = .ok p) : ∃ generated, PlanOf o r s names p generated := by
  unfold plan planWith at h
  split at h
  · next hnames =>
    cases h
    exact ⟨[], fun _ => rfl, ⟨by simp, by simp⟩, by simp, rfl, by rw [if_pos hnames]; rfl⟩
  · next hnames =>
    obtain ⟨results, _, index, validators, resources, hresults, rfl, -, hvalidators, hresources, rfl⟩ :=
      planEmission_ok h
    obtain ⟨hsub, hspelled, hpaths⟩ := results_paths (mapM_ok hresults)
    have hselected := (select_selected s names).subperm (Emission.order_subperm o.strategy _)
    refine ⟨_, fun h => absurd h hnames, hselected.sublist hsub, hspelled, rfl, ?_⟩
    simp only [List.map_append, hpaths, indexFile_ok hvalidators, indexFile_ok hresources, if_neg hnames, indexPaths,
      List.append_assoc]

theorem PlanOf.entities {o : Options} {r : Renderer} {s : Schema} {names : List String} {p : Plan}
    {generated : List Entity} (h : PlanOf o r s names p generated) :
    p.report.generated.filterMap s.entity? = generated := by
  rw [h.listed, List.filterMap_map]
  have hfound := h.selected.found
  clear h
  induction generated with
  | nil => rfl
  | cons e generated ih =>
    rw [List.filterMap_cons, Function.comp, hfound e List.mem_cons_self]
    simp only
    rw [ih fun x hx => hfound x (List.mem_cons_of_mem _ hx)]

end EntityScaffold

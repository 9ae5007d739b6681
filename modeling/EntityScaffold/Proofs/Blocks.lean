import EntityScaffold.Proofs.Emission
import EntityScaffold.Proofs.Scheduling

/-!
Plans in blocks. An entity has its block of files exactly when all its parts are built and rendered
(`planEntity_isBlock`), whatever becomes of the others and however the entities are ordered or shared among workers. A
plan is the blocks of its generated entities in the order of emission, then the files that list them (`InBlocks`); every
entity that is asked for is generated or skipped, once (`PlannedFrom.inBlocks`).
-/

namespace EntityScaffold

open Artifact

/-! ## What is asked for -/

theorem Selection.mem_add {s : Schema} {chosen : Selection} {name other : String} :
    other ∈ (chosen.add s name).entities.map (·.name) ↔
      other ∈ chosen.entities.map (·.name) ∨ other = name ∧ (s.entity? other).isSome = true := by
  unfold Selection.add
  split
  · next hnone =>
    refine ⟨Or.inl, fun h => h.resolve_right ?_⟩
    rintro ⟨rfl, hsome⟩
    rw [hnone] at hsome
    cases hsome
  · next e he =>
    have hname := entity?_name he
    split
    · next hold =>
      refine ⟨Or.inl, fun h => h.elim id ?_⟩
      rintro ⟨rfl, -⟩
      simpa [hname] using hold
    · rw [List.map_append, List.mem_append, List.map_singleton, List.mem_singleton, hname]
      refine or_congr_right ⟨fun h => ⟨h, ?_⟩, And.left⟩
      rw [h, he]
      rfl

theorem mem_select {s : Schema} {names : List String} {name : String} :
    name ∈ (s.select names).entities.map (·.name) ↔ name ∈ names ∧ (s.entity? name).isSome = true := by
  have hfold : ∀ chosen : Selection, name ∈ (names.foldl (Selection.add s) chosen).entities.map (·.name) ↔
      name ∈ chosen.entities.map (·.name) ∨ name ∈ names ∧ (s.entity? name).isSome = true := by
    induction names with
    | nil => simp
    | cons first names ih =>
      intro chosen
      rw [List.foldl_cons, ih, Selection.mem_add, List.mem_cons, or_and_right, or_assoc]
  simpa [Schema.select] using hfold ⟨[], []⟩

/-- the entities of the names, in the order in which they are emitted -/
def emitted (o : Options) (s : Schema) (names : List String) : List Entity :=
  (Emission.order o.strategy (s.select names).entities).entities

theorem emitted_perm (o : Options) (s : Schema) (names : List String) :
    (emitted o s names).Perm (s.select names).entities :=
  Emission.order_perm o.strategy (select_selected s names).once

theorem emitted_selected (o : Options) (s : Schema) (names : List String) : Selected s (emitted o s names) :=
  (select_selected s names).subperm (emitted_perm o s names).subperm

theorem mem_emitted {o : Options} {s : Schema} {names : List String} {e : Entity} (he : s.entity? e.name = some e) :
    e ∈ emitted o s names ↔ e.name ∈ names := by
  have hselected := select_selected s names
  have hnames : e.name ∈ (s.select names).entities.map (·.name) ↔ e.name ∈ names := by
    rw [mem_select, he]
    simp
  rw [(emitted_perm o s names).mem_iff, ← hnames]
  refine ⟨fun h => List.mem_map_of_mem h, fun h => ?_⟩
  obtain ⟨x, hx, hname⟩ := List.mem_map.1 h
  have hfound := hselected.found x hx
  rw [hname, he] at hfound
  cases hfound
  exact hx

/-! ## One entity -/

/-- the files are those of the parts, each of them rendered -/
def Rendered (r : Renderer) (parts : List Part) (files : List PlannedFile) : Prop :=
  List.Forall₂ (fun p f => r.file p = .ok f) parts files

/-- the files are the block of an entity: all its parts are built, and each is rendered -/
def IsBlock (o : Options) (r : Renderer) (s : Schema) (e : Entity) (files : List PlannedFile) : Prop :=
  ∃ parts, entityParts o s e = .ok parts ∧ Rendered r parts files

theorem mapM_entityFile_iff {r : Renderer} {e : Entity} {parts : List Part} {files : List PlannedFile} :
    parts.mapM (entityFile r e) = .ok files ↔ Rendered r parts files := by
  constructor
  · exact fun h => (mapM_ok h).imp fun _ _ hf => mapError_ok hf
  · intro h
    refine mapM_of_forall₂ (h.imp fun p f hf => ?_)
    rw [entityFile, hf]
    rfl

/-- the entity that a warning is about; a cycle and an unknown name are matters of the selection -/
def Warning.owner? : Warning → Option String
  | .unknownEntity _ | .cycle _ => none
  | .missingIdentifier entity _ | .noIdentifier entity | .build entity _ | .render entity _ _ => some entity

def Warning.skipped? : Warning → Option String
  | .unknownEntity _ | .cycle _ | .missingIdentifier _ _ | .noIdentifier _ => none
  | .build entity _ | .render entity _ _ => some entity

def Report.own (report : Report) (entity : String) : List Warning := report.warnings.filter (·.owner? = some entity)

/-- the entities that the warnings say were skipped -/
def Report.skipped (report : Report) : List String := report.warnings.filterMap Warning.skipped?

section OneEntity

variable {o : Options} {r : Renderer} {s : Schema} {e : Entity} {result : EntityResult}

/-- **One entity.** It is generated with its block, or skipped without a file since it has none. -/
theorem planEntity_isBlock (h : planEntity o r s e = .ok result) :
    if result.isGenerated = true then IsBlock o r s e result.files
    else result.files = [] ∧ ∀ files, ¬IsBlock o r s e files := by
  unfold planEntity at h
  split at h
  · cases h
  · next herror =>
    cases h
    refine ⟨rfl, ?_⟩
    rintro files ⟨parts, hparts, -⟩
    rw [herror] at hparts
    cases hparts
  · next parts hparts =>
    split at h
    · next herror =>
      cases h
      refine ⟨rfl, ?_⟩
      rintro files ⟨parts', hparts', hfiles⟩
      rw [hparts] at hparts'
      cases hparts'
      rw [mapM_entityFile_iff.2 hfiles] at herror
      cases herror
    · next files hfiles =>
      cases h
      exact ⟨parts, hparts, mapM_entityFile_iff.1 hfiles⟩

theorem isGenerated_iff (h : planEntity o r s e = .ok result) :
    result.isGenerated = true ↔ ∃ files, IsBlock o r s e files := by
  have hblock := planEntity_isBlock h
  split at hblock
  · next hg => exact iff_of_true hg ⟨_, hblock⟩
  · next hg => exact iff_of_false hg fun ⟨files, hfiles⟩ => hblock.2 files hfiles

theorem identifierNotes_owner {w : Warning} (hw : w ∈ identifierNotes e) :
    w.owner? = some e.name ∧ w.skipped? = none := by
  unfold identifierNotes at hw
  split at hw
  · split at hw
    · rw [List.mem_singleton.1 hw]; exact ⟨rfl, rfl⟩
    · cases hw
  · rw [List.mem_singleton.1 hw]; exact ⟨rfl, rfl⟩

theorem entityFile_error {p : Part} {w : Warning} (h : entityFile r e p = .error w) :
    w.owner? = some e.name ∧ w.skipped? = some e.name := by
  unfold entityFile at h
  cases hf : r.file p with
  | ok f => rw [hf] at h; cases h
  | error error => rw [hf] at h; cases h; exact ⟨rfl, rfl⟩

/-- what is said about an entity names it, and names it as skipped exactly once if it was -/
theorem planEntity_warnings (h : planEntity o r s e = .ok result) :
    (∀ w ∈ result.warnings, w.owner? = some e.name) ∧
      result.warnings.filterMap Warning.skipped? = if result.isGenerated = true then [] else [e.name] := by
  unfold planEntity at h
  split at h
  · cases h
  · cases h
    exact ⟨by simp [EntityResult.warnings, Warning.owner?], rfl⟩
  · split at h
    · next w hw =>
      cases h
      obtain ⟨p, -, hp⟩ := mapM_error hw
      obtain ⟨howner, hskipped⟩ := entityFile_error hp
      exact ⟨by simpa [EntityResult.warnings] using howner,
        by simp [EntityResult.warnings, hskipped, EntityResult.isGenerated]⟩
    · cases h
      exact ⟨fun w hw => (identifierNotes_owner hw).1,
        List.filterMap_eq_nil_iff.2 fun w hw => (identifierNotes_owner hw).2⟩

end OneEntity

/-! ## Whole plans -/

/-- what became of an entity; of no meaning for a name without a plural, for which no plan succeeds -/
def resultOf (o : Options) (r : Renderer) (s : Schema) (e : Entity) : EntityResult :=
  match planEntity o r s e with
  | .ok result => result
  | .error _ => .generated [] []

def indexParts (o : Options) (generated : List Entity) : List Part :=
  let index := ViewModel.index ⟨generated.map spellings⟩
  (if o.enabled .validation = true then [⟨.validationIndex, "validation/index", index⟩] else []) ++
    if o.enabled .ui = true then [⟨.uiResources, "ui/resources", index⟩] else []

/-- a plan in blocks: those of the generated entities in the order of emission, then the files that list them; and
every entity that was asked for is generated or skipped, once -/
structure InBlocks (o : Options) (r : Renderer) (s : Schema) (names : List String) (p : Plan)
    (block : Entity → List PlannedFile) (generated : List Entity) : Prop where
  order : generated.Sublist (emitted o s names)
  /-- entities are generated exactly if they have a block, however many they are with -/
  whole : ∀ e ∈ emitted o s names, e ∈ generated ↔ ∃ files, IsBlock o r s e files
  built : ∀ e ∈ generated, IsBlock o r s e (block e)
  spelled : ∀ e ∈ generated, Names.of? e.name = some (spellings e)
  files : ∃ index, Rendered r (if names = [] then [] else indexParts o generated) index ∧
    p.files = generated.flatMap block ++ index
  listed : p.report.generated = generated.map (·.name)
  once : ∀ name ∈ names, (s.entity? name).isSome = true →
    p.report.generated.count name + p.report.skipped.count name = 1
  known : ∀ name ∈ p.report.generated ++ p.report.skipped, name ∈ names ∧ (s.entity? name).isSome = true

theorem indexModel_ok {entities : List Entity} {index : IndexModel} (h : indexModel entities = .ok index) :
    index = ⟨entities.map spellings⟩ ∧ ∀ e ∈ entities, Names.of? e.name = some (spellings e) := by
  obtain ⟨entries, hentries, hindex⟩ := bind_ok h
  cases hindex
  have hall := mapM_ok hentries
  clear hentries h
  induction hall with
  | nil => exact ⟨rfl, by simp⟩
  | @cons e n entities entries he _ ih =>
    obtain ⟨hindex, hspelled⟩ := ih
    have hn : Names.of? e.name = some n := by
      split at he
      · next names hnames => cases he; exact hnames
      · cases he
    have hspell : spellings e = n := by rw [spellings, hn]; rfl
    refine ⟨?_, List.forall_mem_cons.2 ⟨hspell ▸ hn, hspelled⟩⟩
    rw [List.map_cons, hspell, (IndexModel.mk.inj hindex)]

theorem indexFile_rendered {o : Options} {r : Renderer} {kind : ArtifactKind} {template : Template} {stem : String}
    {index : IndexModel} {files : List PlannedFile} (h : indexFile o r kind template stem index = .ok files) :
    Rendered r (if o.enabled kind = true then [⟨template, stem, .index index⟩] else []) files := by
  unfold indexFile at h
  split at h
  · next hk =>
    rw [if_pos hk]
    split at h
    · next f hf => cases h; exact .cons hf .nil
    · cases h
  · next hk => rw [if_neg hk]; cases h; exact .nil

section Plans

variable {o : Options} {r : Renderer} {s : Schema} {names : List String} {p : Plan}

theorem mapM_planEntity {entities : List Entity} {results : List EntityResult}
    (h : entities.mapM (planEntity o r s) = .ok results) :
    results = entities.map (resultOf o r s) ∧ ∀ e ∈ entities, planEntity o r s e = .ok (resultOf o r s e) := by
  have hall := mapM_ok h
  clear h
  induction hall with
  | nil => exact ⟨rfl, by simp⟩
  | @cons e result entities results he _ ih =>
    obtain ⟨hresults, hok⟩ := ih
    have hresult : result = resultOf o r s e := by
      unfold resultOf
      rw [he]
    exact ⟨congrArg₂ List.cons hresult hresults, List.forall_mem_cons.2 ⟨he.trans (congrArg Except.ok hresult), hok⟩⟩

/-- the entities of a plan that were generated -/
def succeeded (o : Options) (r : Renderer) (s : Schema) (names : List String) : List Entity :=
  (emitted o s names).filter fun e => (resultOf o r s e).isGenerated

theorem filter_zip_map (entities : List Entity) (result : Entity → EntityResult) :
    ((entities.zip (entities.map result)).filter (·.2.isGenerated)).map (·.1) =
      entities.filter fun e => (result e).isGenerated := by
  induction entities with
  | nil => rfl
  | cons e entities ih =>
    cases hg : (result e).isGenerated <;> simp [hg, ih]

/-- a plan that succeeds, from what became of each entity -/
structure PlannedFrom (o : Options) (r : Renderer) (s : Schema) (names : List String) (p : Plan) : Prop where
  results : ∀ e ∈ emitted o s names, planEntity o r s e = .ok (resultOf o r s e)
  spelled : ∀ e ∈ succeeded o r s names, Names.of? e.name = some (spellings e)
  listed : p.report.generated = (succeeded o r s names).map (·.name)
  warnings : ∃ general, (∀ w ∈ general, w.owner? = none ∧ w.skipped? = none) ∧
    p.report.warnings = general ++ (emitted o s names).flatMap fun e => (resultOf o r s e).warnings
  files : ∃ index, Rendered r (if names = [] then [] else indexParts o (succeeded o r s names)) index ∧
    p.files = (emitted o s names).flatMap (fun e => (resultOf o r s e).files) ++ index

theorem plan_plannedFrom (h : plan o r s names = .ok p) : PlannedFrom o r s names p := by
  unfold plan planWith at h
  split at h
  · next hnames =>
    cases h
    subst hnames
    have hnone : emitted o s [] = [] := List.perm_nil.1 (emitted_perm o s [])
    have hsucceeded : succeeded o r s [] = [] := by rw [succeeded, hnone]; rfl
    exact ⟨by simp [hnone], by simp [hsucceeded], by rw [hsucceeded]; rfl, ⟨[], by simp, by rw [hnone]; rfl⟩,
      [], .nil, by rw [hnone]; rfl⟩
  · next hnames =>
    obtain ⟨results, generated, index, validators, resources, hresults, hgenerated, hindex, hvalidators, hresources,
      rfl⟩ := planEmission_ok h
    obtain ⟨rfl, hok⟩ := mapM_planEntity hresults
    rw [filter_zip_map] at hgenerated
    subst hgenerated
    obtain ⟨rfl, hspelled⟩ := indexModel_ok hindex
    simp only [List.flatMap_map]
    refine ⟨hok, hspelled, rfl, ⟨_, ?_, rfl⟩, validators ++ resources, ?_, ?_⟩
    · simp only [List.mem_append, List.mem_map]
      rintro w (⟨name, -, rfl⟩ | ⟨broken, -, rfl⟩) <;> exact ⟨rfl, rfl⟩
    · rw [if_neg hnames]
      exact List.rel_append (indexFile_rendered hvalidators) (indexFile_rendered hresources)
    · exact List.append_assoc _ _ _

theorem flatMap_filter {α β : Type} {q : α → Bool} {g : α → List β} {l : List α}
    (h : ∀ a ∈ l, q a = false → g a = []) : (l.filter q).flatMap g = l.flatMap g := by
  induction l with
  | nil => rfl
  | cons a l ih =>
    have hrest := ih fun x hx => h x (List.mem_cons_of_mem _ hx)
    cases ha : q a with
    | true => rw [List.filter_cons_of_pos ha, List.flatMap_cons, List.flatMap_cons, hrest]
    | false =>
      rw [List.filter_cons_of_neg (by simp [ha]), List.flatMap_cons, h a List.mem_cons_self ha, hrest]
      rfl

theorem filter_append_flatMap_perm (q : Entity → Bool) (entities : List Entity) :
    ((entities.filter q).map (·.name) ++ entities.flatMap fun e => if q e = true then [] else [e.name]).Perm
      (entities.map (·.name)) := by
  induction entities with
  | nil => exact .refl _
  | cons e entities ih =>
    rw [List.flatMap_cons, List.map_cons]
    cases he : q e with
    | true => simpa [he] using ih.cons e.name
    | false => simpa [he] using List.perm_middle.trans (ih.cons e.name)

/-- what is said about an entity is said by nobody else -/
theorem filter_flatMap_owner {notes : Entity → List Warning} {entities : List Entity}
    (hnodup : (entities.map (·.name)).Nodup) (h : ∀ e ∈ entities, ∀ w ∈ notes e, w.owner? = some e.name) {e : Entity}
    (he : e ∈ entities) : (entities.flatMap notes).filter (·.owner? = some e.name) = notes e := by
  induction entities with
  | nil => cases he
  | cons first entities ih =>
    obtain ⟨hfirst, hrest⟩ := List.forall_mem_cons.1 h
    rw [List.map_cons, List.nodup_cons] at hnodup
    rw [List.flatMap_cons, List.filter_append]
    rcases List.mem_cons.1 he with rfl | he
    · have hothers : (entities.flatMap notes).filter (·.owner? = some e.name) = [] := by
        simp only [List.filter_eq_nil_iff, List.mem_flatMap, decide_eq_true_eq]
        rintro w ⟨x, hx, hw⟩ howner
        rw [hrest x hx w hw] at howner
        exact hnodup.1 (Option.some.inj howner ▸ List.mem_map_of_mem hx)
      rw [hothers, List.append_nil, List.filter_eq_self]
      exact fun w hw => by simp [hfirst w hw]
    · have hnone : (notes first).filter (·.owner? = some e.name) = [] := by
        simp only [List.filter_eq_nil_iff, decide_eq_true_eq]
        intro w hw howner
        rw [hfirst w hw] at howner
        exact hnodup.1 (Option.some.inj howner ▸ List.mem_map_of_mem he)
      rw [hnone, List.nil_append, ih hnodup.2 hrest he]

section Planned

variable (h : PlannedFrom o r s names p)
include h

theorem PlannedFrom.skipped : p.report.skipped =
    (emitted o s names).flatMap fun e => if (resultOf o r s e).isGenerated = true then [] else [e.name] := by
  obtain ⟨general, hgeneral, hwarnings⟩ := h.warnings
  have hnone : general.filterMap Warning.skipped? = [] :=
    List.filterMap_eq_nil_iff.2 fun w hw => (hgeneral w hw).2
  rw [Report.skipped, hwarnings, List.filterMap_append, hnone, List.nil_append, List.filterMap_flatMap]
  exact List.flatMap_congr fun e he => (planEntity_warnings (h.results e he)).2

theorem PlannedFrom.own {e : Entity} (he : e ∈ emitted o s names) :
    p.report.own e.name = (resultOf o r s e).warnings := by
  obtain ⟨general, hgeneral, hwarnings⟩ := h.warnings
  have hnone : general.filter (·.owner? = some e.name) = [] :=
    List.filter_eq_nil_iff.2 fun w hw => by simp [(hgeneral w hw).1]
  rw [Report.own, hwarnings, List.filter_append, hnone, List.nil_append]
  exact filter_flatMap_owner (emitted_selected o s names).once
    (fun x hx => (planEntity_warnings (h.results x hx)).1) he

theorem PlannedFrom.perm : (p.report.generated ++ p.report.skipped).Perm ((emitted o s names).map (·.name)) := by
  rw [h.listed, h.skipped]
  exact filter_append_flatMap_perm _ _

theorem PlannedFrom.mem_iff {name : String} :
    name ∈ p.report.generated ++ p.report.skipped ↔ name ∈ names ∧ (s.entity? name).isSome = true := by
  rw [h.perm.mem_iff, ((emitted_perm o s names).map _).mem_iff, mem_select]

/-- **A plan in blocks**, the files of each entity being those that its result holds -/
theorem PlannedFrom.inBlocks :
    InBlocks o r s names p (fun e => (resultOf o r s e).files) (succeeded o r s names) where
  order := List.filter_sublist
  whole e he := by
    rw [succeeded, List.mem_filter, and_iff_right he]
    exact isGenerated_iff (h.results e he)
  built e he := by
    obtain ⟨he, hg⟩ := List.mem_filter.1 he
    have hblock := planEntity_isBlock (h.results e he)
    rwa [if_pos hg] at hblock
  spelled := h.spelled
  files := by
    obtain ⟨index, hindex, hfiles⟩ := h.files
    refine ⟨index, hindex, hfiles.trans (congrArg (· ++ index) (flatMap_filter fun e he hg => ?_).symm)⟩
    have hnone := planEntity_isBlock (h.results e he)
    rw [if_neg (by simp [hg])] at hnone
    exact hnone.1
  listed := h.listed
  once name hname hknown := by
    have hmem := h.mem_iff.2 ⟨hname, hknown⟩
    have hnodup := h.perm.nodup_iff.2 (emitted_selected o s names).once
    rw [← List.count_append, List.count_eq_one_of_mem hnodup hmem]
  known _ := h.mem_iff.1

end Planned

/-- **Blocks of two plans.** Whatever is asked for, in whatever order it is emitted and however it is shared among
workers: both plans are in blocks, the block of an entity is the same in both, and of an entity that both were asked for
they say the same: whether it was generated, and every warning about it. -/
theorem planWith_inBlocks (kinds : List ArtifactKind) (r : Renderer) (s : Schema) (names names' : List String)
    (strategy strategy' : Emission.Strategy) (schedule schedule' : Schedule) (p p' : Plan)
    (h : planWith schedule ⟨strategy, kinds⟩ r s names = .ok p)
    (h' : planWith schedule' ⟨strategy', kinds⟩ r s names' = .ok p') :
    ∃ (block : Entity → List PlannedFile) (generated generated' : List Entity),
      InBlocks ⟨strategy, kinds⟩ r s names p block generated ∧
      InBlocks ⟨strategy', kinds⟩ r s names' p' block generated' ∧
      ∀ e, s.entity? e.name = some e → e.name ∈ names → e.name ∈ names' →
        (e ∈ generated ↔ e ∈ generated') ∧ p.report.own e.name = p'.report.own e.name := by
  rw [planWith_eq] at h h'
  have hp := plan_plannedFrom h
  have hp' := plan_plannedFrom h'
  refine ⟨_, _, _, hp.inBlocks, hp'.inBlocks, fun e he hname hname' => ?_⟩
  have hmem : e ∈ emitted ⟨strategy, kinds⟩ s names := (mem_emitted he).2 hname
  have hmem' : e ∈ emitted ⟨strategy', kinds⟩ s names' := (mem_emitted he).2 hname'
  refine ⟨?_, (hp.own hmem).trans (hp'.own hmem').symm⟩
  rw [succeeded, succeeded, List.mem_filter, List.mem_filter, and_iff_right hmem, and_iff_right hmem']
  rfl

end Plans

/-- a renderer that fails at the last template of one entity -/
def fussyRenderer : Renderer where
  render template model :=
    match template, model with
    | .uiFields, .form m => if m.names.name = "Post" then .error ⟨"ui-fields", "missing partial"⟩ else .ok m.names.name
    | _, _ => .ok template.name
  extension := "txt"

def reversedWorkers : Workers := ⟨fun n => (List.range n).reverse, fun n => List.reverse_perm (List.range n)⟩

def fates (p : Plan) : List String × List String := (p.report.generated, p.report.skipped)

/-- the entity fails in both plans, and the same is said about it -/
theorem planWith_inBlocks_tagsAndPosts : ∃ p p',
    planWith .sequential ⟨.topological, [.validation, .ui]⟩ fussyRenderer ⟨Emission.tagsAndPosts, [], []⟩
      ["Post", "Nobody", "Tag", "Post"] = .ok p ∧
    planWith (.parallel reversedWorkers) ⟨.fanOut, [.validation, .ui]⟩ fussyRenderer ⟨Emission.tagsAndPosts, [], []⟩
      ["Extra", "Tag", "Post"] = .ok p' ∧
    p.report.generated = ["Tag"] ∧ p'.report.generated = ["Extra", "Tag"] ∧
    p.report.skipped = ["Post"] ∧ p.report.own "Post" = p'.report.own "Post" := by
  have h : (planWith .sequential ⟨.topological, [.validation, .ui]⟩ fussyRenderer ⟨Emission.tagsAndPosts, [], []⟩
      ["Post", "Nobody", "Tag", "Post"]).toOption.map fates = some (["Tag"], ["Post"]) := by decide +kernel
  have h' : (planWith (.parallel reversedWorkers) ⟨.fanOut, [.validation, .ui]⟩ fussyRenderer
      ⟨Emission.tagsAndPosts, [], []⟩ ["Extra", "Tag", "Post"]).toOption.map fates =
        some (["Extra", "Tag"], ["Post"]) := by decide +kernel
  obtain ⟨p, hp, hfates⟩ := ok_of_toOption_map h
  obtain ⟨p', hp', hfates'⟩ := ok_of_toOption_map h'
  obtain ⟨hgenerated, hskipped⟩ := Prod.mk.inj hfates
  obtain ⟨hgenerated', -⟩ := Prod.mk.inj hfates'
  obtain ⟨_, _, _, -, -, hsame⟩ := planWith_inBlocks _ _ _ _ _ _ _ _ _ p p' hp hp'
  refine ⟨p, p', hp, hp', hgenerated, hgenerated', hskipped, ?_⟩
  exact (hsame (Emission.tagsAndPosts[1]) (by decide +kernel) (by decide) (by decide)).2

/-- where nothing is asked for, not even the files that list the entities are planned -/
theorem planWith_unasked_tagsAndPosts : ∃ p,
    planWith .sequential ⟨.topological, [.validation]⟩ .json ⟨Emission.tagsAndPosts, [], []⟩ [] = .ok p ∧
    ¬∃ block generated index,
      generated.Sublist (emitted ⟨.topological, [.validation]⟩ ⟨Emission.tagsAndPosts, [], []⟩ []) ∧
      Rendered .json (indexParts ⟨.topological, [.validation]⟩ generated) index ∧
      p.files = generated.flatMap block ++ index := by
  refine ⟨.empty, rfl, ?_⟩
  rintro ⟨block, generated, index, -, hindex, hfiles⟩
  obtain ⟨-, rfl⟩ := List.append_eq_nil_iff.1 hfiles.symm
  cases hindex

end EntityScaffold

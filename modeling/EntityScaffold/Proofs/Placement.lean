import EntityScaffold.Generation
import EntityScaffold.Proofs.Components
import EntityScaffold.Proofs.Planning
import EntityScaffold.Proofs.Spelling

/-!
Where the files of a plan stand. `components_slot` gives the components of the path of every file that an entity
can have. From it follows which plans stay inside the directory they are written to (`plan_inside_iff`): the only
way out is a `..` in the resource of an entity with endpoints, since a stem holds no slash and no full stop and an
identifier is a field name.
-/

namespace EntityScaffold

open Artifact Text Line

/-! ## The directory of a file and its address there -/

def Slot.directory : Slot → String
  | .validators => "validation"
  | .services => "services"
  | .collection | .item => "api"
  | .forms => "ui"

/-- the file of one record, named by the field that identifies it -/
def bracketed (field : String) : List Char := '[' :: (field.toList ++ [']'])

/-- the text of a path below its directory -/
def Slot.below (n : Names) (field : String) : Slot → List Char
  | .validators | .services | .forms => n.fileStem.toList
  | .collection => n.resource.toList ++ '/' :: "index".toList
  | .item => n.resource.toList ++ '/' :: bracketed field

theorem path_slot (r : Renderer) (n : Names) (field : String) (slot : Slot) :
    r.path (slot.stem n field) =
      slot.directory ++ "/" ++ String.ofList (slot.below n field ++ '.' :: r.extension.toList) := by
  rw [← String.toList_inj]
  cases slot <;> simp [Renderer.path, Slot.stem, Slot.directory, Slot.below, bracketed]

theorem directory_plain (slot : Slot) :
    slot.directory ≠ "" ∧ slot.directory ≠ "." ∧ slot.directory ≠ ".." ∧ '/' ∉ slot.directory.toList := by
  cases slot <;> decide

theorem components_slot (r : Renderer) (n : Names) (field : String) (slot : Slot) :
    Path.components (r.path (slot.stem n field)) =
      slot.directory :: Path.names (slot.below n field ++ '.' :: r.extension.toList) := by
  obtain ⟨h1, h2, -, h3⟩ := directory_plain slot
  rw [path_slot, Path.components_below h1 h2 h3, String.toList_ofList]

theorem names_endpoint (resource last extension : List Char) :
    Path.names ((resource ++ '/' :: last) ++ '.' :: extension) =
      Path.names resource ++ Path.names (last ++ '.' :: extension) := by
  rw [List.append_assoc, List.cons_append, Path.names_append]

theorem isAbsolute_slot (r : Renderer) (n : Names) (field : String) (slot : Slot) :
    Path.isAbsolute (r.path (slot.stem n field)) = false := by
  obtain ⟨h1, -, -, h3⟩ := directory_plain slot
  rw [path_slot]
  exact Path.isAbsolute_below h1 h3

/-! ## Identifiers -/

theorem identifier?_field {e : Entity} {id : Identifier} (h : identifier? e = some id) :
    ∃ f ∈ e.fields, id.field = f.name := by
  unfold identifier? at h
  split at h
  · next f hf =>
    obtain ⟨scalar, -, rfl⟩ := Option.map_eq_some_iff.1 h
    exact ⟨f, List.mem_of_find?_eq_some hf, rfl⟩
  · obtain ⟨f, hf, h⟩ := Option.bind_eq_some_iff.1 h
    obtain ⟨scalar, -, rfl⟩ := Option.map_eq_some_iff.1 h
    exact ⟨f, (List.mem_filter.1 (List.mem_of_head? hf)).1, rfl⟩

theorem slash_not_mem_identifier {name : List Char} (h : isIdentifier name = true) : '/' ∉ name := by
  intro hm
  cases name with
  | nil => cases hm
  | cons c rest =>
    simp only [isIdentifier, Bool.and_eq_true, Bool.or_eq_true, decide_eq_true_eq, List.all_eq_true] at h
    rcases List.mem_cons.1 hm with rfl | hm
    · exact absurd h.1 (by decide)
    · exact absurd (h.2 _ hm) (by decide)

/-- the fields of the entity are named by identifiers, as those of a loaded schema are -/
def Entity.HasFieldNames (e : Entity) : Prop := ∀ f ∈ e.fields, isIdentifier f.name.toList = true

theorem slash_not_mem_identifierField {e : Entity} (h : e.HasFieldNames) : '/' ∉ (identifierField e).toList := by
  unfold identifierField
  cases hid : identifier? e with
  | none => simp
  | some id =>
    obtain ⟨f, hf, hname⟩ := identifier?_field hid
    rw [Option.map_some, Option.getD_some, hname]
    exact slash_not_mem_identifier (h f hf)

/-! ## Staying inside -/

/-- the extension is one plain name -/
def Renderer.IsPlain (r : Renderer) : Prop := '/' ∉ r.extension.toList ∧ r.extension ≠ "."

instance (r : Renderer) : Decidable r.IsPlain := inferInstanceAs (Decidable (_ ∧ _))

/-- a stem without slash makes one name with a plain extension; it is `..` only if the stem is a full stop -/
theorem up_not_mem_extended {r : Renderer} (hr : r.IsPlain) {stem : List Char} (hslash : '/' ∉ stem)
    (hdot : stem ≠ ['.']) : ".." ∉ Path.names (stem ++ '.' :: r.extension.toList) := by
  intro h
  obtain ⟨hpiece, -⟩ := Path.mem_names.1 h
  rw [show "..".toList = ['.', '.'] from rfl] at hpiece
  have hall : '/' ∉ stem ++ '.' :: r.extension.toList := by simp [hslash, hr.1]
  rw [List.splitOn_eq_singleton hall, List.mem_singleton] at hpiece
  match stem, hpiece with
  | [], hpiece =>
    refine hr.2 (String.toList_inj.1 ?_)
    simpa using hpiece.symm
  | [c], hpiece =>
    have hc : c = '.' := (List.cons.inj hpiece).1.symm
    exact hdot (by rw [hc])
  | _ :: _ :: _, hpiece => simpa using congrArg List.length hpiece

/-- the path of a file goes up only where a resource does -/
theorem up_mem_slot {r : Renderer} (hr : r.IsPlain) {n : Names} {field : String} (hslash : '/' ∉ n.fileStem.toList)
    (hdot : '.' ∉ n.fileStem.toList) (hfield : '/' ∉ field.toList) (slot : Slot) :
    ".." ∈ Path.components (r.path (slot.stem n field)) ↔
      slot.kind = .endpoint ∧ ".." ∈ Path.names n.resource.toList := by
  have hstem : ".." ∉ Path.names (n.fileStem.toList ++ '.' :: r.extension.toList) :=
    up_not_mem_extended hr hslash fun h => hdot (h ▸ List.mem_singleton_self _)
  rw [components_slot, List.mem_cons, or_iff_right (directory_plain slot).2.2.1.symm]
  cases slot with
  | validators => simpa [Slot.below, Slot.kind] using hstem
  | services => simpa [Slot.below, Slot.kind] using hstem
  | forms => simpa [Slot.below, Slot.kind] using hstem
  | collection =>
    have hlast : ".." ∉ Path.names ("index".toList ++ '.' :: r.extension.toList) :=
      up_not_mem_extended hr (by decide) (by decide)
    simp only [Slot.below, Slot.kind, true_and, names_endpoint, List.mem_append, or_iff_left hlast]
  | item =>
    have hlast : ".." ∉ Path.names (bracketed field ++ '.' :: r.extension.toList) :=
      up_not_mem_extended hr (by simp [bracketed, hfield]) (by simp [bracketed])
    simp only [Slot.below, Slot.kind, true_and, names_endpoint, List.mem_append, or_iff_left hlast]

/-- spellings under which the file that lists the entities stands in a slot -/
def indexSpellings (name : String) : Names := ⟨"", "", "", "", "", name⟩

/-- the slots of the files that list the entities, and their names -/
def indexSlots (o : Options) : List (Slot × String) :=
  (if o.enabled .validation = true then [(.validators, "index")] else []) ++
    (if o.enabled .ui = true then [(.forms, "resources")] else [])

theorem mem_indexSlots {o : Options} {slot : Slot} {name : String} : (slot, name) ∈ indexSlots o ↔
    (o.enabled .validation = true ∧ slot = .validators ∧ name = "index") ∨
      (o.enabled .ui = true ∧ slot = .forms ∧ name = "resources") := by
  unfold indexSlots
  cases o.enabled .validation <;> cases o.enabled .ui <;> simp

theorem indexPaths_eq (o : Options) (r : Renderer) :
    indexPaths o r = (indexSlots o).map fun place => r.path (place.1.stem (indexSpellings place.2) "") := by
  unfold indexPaths indexSlots
  cases o.enabled .validation <;> cases o.enabled .ui <;> rfl

/-- the files that list the entities stay inside -/
theorem inside_index {o : Options} {r : Renderer} (hr : r.IsPlain) {path : String} (h : path ∈ indexPaths o r) :
    Path.Inside path := by
  rw [indexPaths_eq] at h
  obtain ⟨⟨slot, name⟩, hplace, rfl⟩ := List.mem_map.1 h
  refine ⟨isAbsolute_slot _ _ _ _, ?_⟩
  rcases mem_indexSlots.1 hplace with ⟨-, rfl, rfl⟩ | ⟨-, rfl, rfl⟩
  · rw [up_mem_slot hr (by decide) (by decide) (by decide)]
    exact fun h => absurd h.1 (by decide)
  · rw [up_mem_slot hr (by decide) (by decide) (by decide)]
    exact fun h => absurd h.1 (by decide)

theorem PlanOf.mem_paths {o : Options} {r : Renderer} {s : Schema} {names : List String} {p : Plan}
    {generated : List Entity} (h : PlanOf o r s names p generated) {path : String} :
    path ∈ p.files.map (·.path) ↔
      (∃ e ∈ generated, ∃ slot, HasSlot o e slot ∧ path = r.path (slot.stem (spellings e) (identifierField e))) ∨
        (names ≠ [] ∧ path ∈ indexPaths o r) := by
  rw [h.paths, List.mem_append, List.mem_flatMap]
  refine or_congr (exists_congr fun e => and_congr_right fun _ => ?_) ?_
  · simp only [entityPaths, List.mem_map, List.mem_filter, decide_eq_true_eq]
    constructor
    · rintro ⟨slot, ⟨-, hslot⟩, rfl⟩
      exact ⟨slot, hslot, rfl⟩
    · rintro ⟨slot, hslot, rfl⟩
      exact ⟨slot, ⟨by cases slot <;> decide, hslot⟩, rfl⟩
  · by_cases hn : names = [] <;> simp [hn]

theorem PlanOf.hasFieldNames {o : Options} {r : Renderer} {names : List String} {p : Plan} {generated : List Entity}
    {strict : Bool} {source : String} {outcome : Document.Outcome} (hl : Document.load strict source = .ok outcome)
    (h : PlanOf o r outcome.schema names p generated) {e : Entity} (he : e ∈ generated) : e.HasFieldNames :=
  Document.load_fieldNames hl e (entity?_mem (h.selected.found e he))

/-- **Files stay inside.** The paths of a plan for a loaded document are relative, and none goes up, unless endpoints
are generated for an entity whose resource goes up itself. A name without slash makes no such resource. A path that
stays inside, joined to any root, is a place below that root. -/
theorem plan_inside_iff (strict : Bool) (source : String) (o : Options) (r : Renderer) (names : List String)
    (outcome : Document.Outcome) (p : Plan) (hl : Document.load strict source = .ok outcome)
    (hp : plan o r outcome.schema names = .ok p) (hr : r.IsPlain) :
    (∀ f ∈ p.files, Path.isAbsolute f.path = false) ∧
    ((∀ f ∈ p.files, Path.Inside f.path) ↔
      ∀ e ∈ p.report.generated.filterMap outcome.schema.entity?, HasSlot o e .collection →
        ".." ∉ Path.names (spellings e).resource.toList) ∧
    ((∀ name ∈ p.report.generated, '/' ∉ name.toList) → ∀ f ∈ p.files, Path.Inside f.path) ∧
    ∀ f ∈ p.files, Path.Inside f.path → ∀ root,
      Path.placeOf (Path.join root f.path) = Path.placeOf root ++ Path.names f.path.toList := by
  obtain ⟨generated, h⟩ := plan_ok hp
  rw [h.entities]
  have hup : ∀ e ∈ generated, ∀ slot : Slot,
      (".." ∈ Path.components (r.path (slot.stem (spellings e) (identifierField e))) ↔
        slot.kind = .endpoint ∧ ".." ∈ Path.names (spellings e).resource.toList) := fun e he slot =>
    up_mem_slot hr (slash_not_mem_fileStem (h.spelled e he)) (dot_not_mem_fileStem (h.spelled e he))
      (slash_not_mem_identifierField (h.hasFieldNames hl he)) slot
  have hmem : ∀ f ∈ p.files, f.path ∈ p.files.map (·.path) := fun f hf => List.mem_map_of_mem hf
  have hinside : (∀ f ∈ p.files, Path.Inside f.path) ↔
      ∀ e ∈ generated, HasSlot o e .collection → ".." ∉ Path.names (spellings e).resource.toList := by
    constructor
    · intro hall e he hslot hgoes
      obtain ⟨f, hf, hpath⟩ := List.mem_map.1 (h.mem_paths.2 (Or.inl ⟨e, he, .collection, hslot, rfl⟩))
      exact (hall f hf).2 (hpath ▸ (hup e he .collection).2 ⟨rfl, hgoes⟩)
    · intro hall f hf
      rcases h.mem_paths.1 (hmem f hf) with ⟨e, he, slot, hslot, hpath⟩ | ⟨-, hindex⟩
      · refine ⟨hpath ▸ isAbsolute_slot _ _ _ _, fun hgoes => ?_⟩
        rw [hpath, hup e he slot] at hgoes
        have hkind : o.enabled .endpoint = true := by rw [← hgoes.1]; exact hslot.1
        refine hall e he ⟨hkind, fun _ => hslot.2 ?_⟩ hgoes.2
        cases slot <;> first | rfl | cases hgoes.1
      · exact inside_index hr hindex
  refine ⟨fun f hf => ?_, hinside, fun hnames => hinside.2 fun e he _ hgoes => ?_, fun f _ hf root =>
    Path.placeOf_join hf root⟩
  · rcases h.mem_paths.1 (hmem f hf) with ⟨e, he, slot, -, hpath⟩ | ⟨-, hindex⟩
    · rw [hpath]; exact isAbsolute_slot _ _ _ _
    · exact (inside_index hr hindex).1
  · have hslash : '/' ∉ e.name.toList := hnames e.name (h.listed ▸ List.mem_map_of_mem he)
    have hsplit := List.splitOn_eq_singleton (slash_not_mem_resource (h.spelled e he) hslash)
    obtain ⟨hpiece, -⟩ := Path.mem_names.1 hgoes
    rw [hsplit, List.mem_singleton, String.toList_inj] at hpiece
    exact resource_ne_up (h.spelled e he) hpiece.symm

/-- a document loaded and planned for, by what the plan says of its entities and paths -/
def plannedPaths (source : String) (o : Options) (names : List String) : Option (List String × List String) :=
  (Document.load false source).toOption.bind fun outcome =>
    (plan o .json outcome.schema names).toOption.map fun p => (p.report.generated, p.files.map (·.path))

theorem plannedPaths_eq_some {source : String} {o : Options} {names generated paths : List String}
    (h : plannedPaths source o names = some (generated, paths)) :
    ∃ outcome p, Document.load false source = .ok outcome ∧
      plan o .json outcome.schema names = .ok p ∧ p.report.generated = generated ∧ p.files.map (·.path) = paths := by
  unfold plannedPaths at h
  cases hload : Document.load false source with
  | error e => rw [hload] at h; cases h
  | ok outcome =>
    rw [hload] at h
    simp only [Except.toOption, Option.bind_some] at h
    cases hplan : plan o .json outcome.schema names with
    | error e => rw [hplan] at h; cases h
    | ok p => rw [hplan] at h; cases h; exact ⟨outcome, p, rfl, hplan, rfl, rfl⟩

def blogDocument : String := "model BlogPost {
  id Int @id
}
"

/-- everything generated for a plain name stays inside -/
theorem plan_inside_blogDocument : ∃ outcome p, Document.load false blogDocument = .ok outcome ∧
    plan .all .json outcome.schema ["BlogPost"] = .ok p ∧ p.files.length = 7 ∧ ∀ f ∈ p.files, Path.Inside f.path := by
  have h : plannedPaths blogDocument .all ["BlogPost"] = some (["BlogPost"],
      ["validation/blog-post.json", "services/blog-post.json", "api/blogposts/index.json", "api/blogposts/[id].json",
        "ui/blog-post.json", "validation/index.json", "ui/resources.json"]) := by decide +kernel
  obtain ⟨outcome, p, hload, hplan, hgenerated, hpaths⟩ := plannedPaths_eq_some h
  have hlength : p.files.length = 7 := by rw [← List.length_map, hpaths]; rfl
  refine ⟨outcome, p, hload, hplan, hlength, ?_⟩
  refine (plan_inside_iff false _ .all .json _ outcome p hload hplan (by decide)).2.2.1 fun name hname => ?_
  rw [hgenerated, List.mem_singleton] at hname
  rw [hname]
  decide

def upDocument : String := "model ../x {
  id Int @id
}
"

/-- the endpoints of a name that leads upwards are written outside their directory -/
theorem plan_outside_upDocument : ∃ outcome p, Document.load false upDocument = .ok outcome ∧
    plan ⟨.topological, [.endpoint]⟩ .json outcome.schema ["../x"] = .ok p ∧ ∃ f ∈ p.files, ¬Path.Inside f.path := by
  have h : plannedPaths upDocument ⟨.topological, [.endpoint]⟩ ["../x"] =
      some (["../x"], ["api/../xes/index.json", "api/../xes/[id].json"]) := by decide +kernel
  obtain ⟨outcome, p, hload, hplan, -, hpaths⟩ := plannedPaths_eq_some h
  obtain ⟨f, hf, hpath⟩ := List.mem_map.1 (hpaths ▸ List.mem_cons_self : "api/../xes/index.json" ∈ p.files.map (·.path))
  exact ⟨outcome, p, hload, hplan, f, hf, by rw [hpath]; decide⟩

end EntityScaffold

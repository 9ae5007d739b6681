import EntityScaffold.Proofs.Placement

/-!
When two files of a plan share a path. Two paths are compared slot by slot (`same_slot_iff`): files of different
slots never meet, files of one slot meet when their keys do, which is the stem of a file or, for endpoints, the
names in the resource. So the paths of a plan differ exactly when no two of its entities `Clash` and none takes the
place of an index (`plan_distinct_iff`), and only then does a run into an empty store keep every file.
-/

namespace EntityScaffold

open Artifact Text Line

/-! ## Files of two entities -/

/-- what tells the files of one slot apart -/
def Slot.key (n : Names) : Slot → List String
  | .validators | .services | .forms => [n.fileStem]
  | .collection | .item => Path.names n.resource.toList

/-- the names that follow the resource differ, whatever the extension -/
theorem endpoint_names_eq {resource resource' a b extension : List Char} (ha : '/' ∉ a) (hb : '/' ∉ b) (ha' : a ≠ [])
    (hb' : b ≠ []) : Path.names resource ++ Path.names (a ++ '.' :: extension) =
        Path.names resource' ++ Path.names (b ++ '.' :: extension) ↔
      Path.names resource = Path.names resource' ∧ a = b := by
  obtain ⟨first, more, hnames⟩ := Path.names_extended_cons extension
  constructor
  · intro h
    rw [hnames a ha ha', hnames b hb hb'] at h
    obtain ⟨h1, h2⟩ := List.append_inj' h rfl
    refine ⟨h1, ?_⟩
    have := congrArg String.toList (List.cons.inj h2).1
    rw [String.toList_ofList, String.toList_ofList] at this
    exact List.append_cancel_right this
  · rintro ⟨h, rfl⟩
    rw [h]

/-- **Two files on one path.** They are files of the same slot with the same key, and of the same identifier where
the identifier names the file. -/
theorem same_slot_iff (r : Renderer) {n n' : Names} {field field' : String} (hn : '/' ∉ n.fileStem.toList)
    (hn' : '/' ∉ n'.fileStem.toList) (hf : '/' ∉ field.toList) (hf' : '/' ∉ field'.toList) (slot slot' : Slot) :
    Path.same (r.path (slot.stem n field)) (r.path (slot'.stem n' field')) = true ↔
      slot = slot' ∧ slot.key n = slot.key n' ∧ (slot = .item → field = field') := by
  have hstem : Path.names (n.fileStem.toList ++ '.' :: r.extension.toList) =
      Path.names (n'.fileStem.toList ++ '.' :: r.extension.toList) ↔ n.fileStem = n'.fileStem :=
    ⟨fun h => String.toList_inj.1 (Path.names_extended_injective hn hn' h), fun h => by rw [h]⟩
  have hb : '/' ∉ bracketed field := by simp [bracketed, hf]
  have hb' : '/' ∉ bracketed field' := by simp [bracketed, hf']
  have hindex : '/' ∉ "index".toList := by decide
  have hne : "index".toList ≠ bracketed field' := fun h => absurd (List.cons.inj h).1 (by decide)
  have hne' : bracketed field ≠ "index".toList := fun h => absurd (List.cons.inj h).1 (by decide)
  have hbracketed : bracketed field = bracketed field' ↔ field = field' := by simp [bracketed, String.toList_inj]
  rw [Path.same, decide_eq_true_eq, components_slot, components_slot, List.cons.injEq]
  cases slot <;> cases slot' <;>
    simp only [Slot.directory, Slot.below, Slot.key, names_endpoint, hstem, reduceCtorEq, String.reduceEq, true_and,
      false_and, false_implies, true_implies, and_true, List.cons.injEq]
  · exact endpoint_names_eq hindex hindex (by simp) (by simp) |>.trans (and_iff_left rfl)
  · exact iff_of_false (fun h => hne ((endpoint_names_eq hindex hb' (by simp) (by simp [bracketed])).1 h).2) id
  · exact iff_of_false (fun h => hne' ((endpoint_names_eq hb hindex (by simp [bracketed]) (by simp)).1 h).2) id
  · rw [endpoint_names_eq hb hb' (by simp [bracketed]) (by simp [bracketed]), hbracketed]

/-- the entities have a file in common: both have a file of a slot, under the same key -/
def Clash (o : Options) (e e' : Entity) : Prop :=
  ∃ slot, HasSlot o e slot ∧ HasSlot o e' slot ∧ slot.key (spellings e) = slot.key (spellings e')

/-- the entity has a file at the place of an index -/
def HidesIndex (o : Options) (e : Entity) : Prop :=
  (o.enabled .validation = true ∧ (spellings e).fileStem = "index") ∨
    (o.enabled .ui = true ∧ (spellings e).fileStem = "resources")

/-! ## All files of a plan -/

/-- the files stand under paths that differ pairwise -/
def Distinct (paths : List String) : Prop := paths.Pairwise fun a b => Path.same a b = false

/-- what the slots of an entity are named by holds no slash -/
structure Sound (e : Entity) : Prop where
  stem : '/' ∉ (spellings e).fileStem.toList
  field : '/' ∉ (identifierField e).toList

theorem distinct_entityPaths (o : Options) (r : Renderer) {e : Entity} (he : Sound e) :
    Distinct (entityPaths o r e (spellings e)) := by
  unfold Distinct entityPaths
  rw [List.pairwise_map]
  refine List.Pairwise.sublist List.filter_sublist ?_
  have hall : Slot.all.Pairwise (· ≠ ·) := by decide
  refine hall.imp fun {slot slot'} hne => ?_
  rw [Bool.eq_false_iff, ne_eq, same_slot_iff r he.stem he.stem he.field he.field]
  exact fun h => hne h.1

theorem apart_iff (o : Options) (r : Renderer) {e e' : Entity} (he : Sound e) (he' : Sound e') :
    (∀ x ∈ entityPaths o r e (spellings e), ∀ y ∈ entityPaths o r e' (spellings e'), Path.same x y = false) ↔
      ¬Clash o e e' := by
  have hsame := same_slot_iff r he.stem he'.stem he.field he'.field
  simp only [entityPaths, List.forall_mem_map, List.mem_filter, decide_eq_true_eq]
  constructor
  · rintro h ⟨slot, hslot, hslot', hkey⟩
    -- endpoints with one resource meet in their collections, whatever their identifiers
    obtain ⟨meet, hmeet, hmeet', hkey', hitem⟩ : ∃ meet, HasSlot o e meet ∧ HasSlot o e' meet ∧
        Slot.key (spellings e) meet = Slot.key (spellings e') meet ∧ meet ≠ .item := by
      by_cases hi : slot = .item
      · subst hi
        exact ⟨.collection, hslot, hslot', hkey, by decide⟩
      · exact ⟨slot, hslot, hslot', hkey, hi⟩
    have hmem : meet ∈ Slot.all := by cases meet <;> decide
    have := h meet ⟨hmem, hmeet⟩ meet ⟨hmem, hmeet'⟩
    rw [Bool.eq_false_iff] at this
    exact this ((hsame meet meet).2 ⟨rfl, hkey', fun h => absurd h hitem⟩)
  · rintro h slot ⟨-, hslot⟩ slot' ⟨-, hslot'⟩
    rw [Bool.eq_false_iff, ne_eq, hsame]
    rintro ⟨rfl, hkey, -⟩
    exact h ⟨slot, hslot, hslot', hkey⟩

theorem distinct_indexPaths (o : Options) (r : Renderer) : Distinct (indexPaths o r) := by
  have hapart : Path.same (r.path (Slot.validators.stem (indexSpellings "index") ""))
      (r.path (Slot.forms.stem (indexSpellings "resources") "")) = false := by
    rw [Bool.eq_false_iff, ne_eq, same_slot_iff r (by decide) (by decide) (by decide) (by decide)]
    exact fun h => absurd h.1 (by decide)
  rw [indexPaths_eq]
  unfold Distinct indexSlots
  cases o.enabled .validation <;> cases o.enabled .ui
  · simp
  · simp
  · simp
  · simpa using hapart

/-- the files of an entity are apart from those that list the entities unless it hides one of them -/
theorem apart_index_iff (o : Options) (r : Renderer) {e : Entity} (he : Sound e) :
    (∀ x ∈ entityPaths o r e (spellings e), ∀ y ∈ indexPaths o r, Path.same x y = false) ↔ ¬HidesIndex o e := by
  have hsame : ∀ slot place, (slot, place) ∈ indexSlots o → ∀ slot', (Path.same
      (r.path (slot'.stem (spellings e) (identifierField e))) (r.path (slot.stem (indexSpellings place) "")) = true ↔
      slot' = slot ∧ (spellings e).fileStem = place) := by
    intro slot place hplace slot'
    rcases mem_indexSlots.1 hplace with ⟨-, rfl, rfl⟩ | ⟨-, rfl, rfl⟩
    · rw [same_slot_iff r he.stem (by decide) he.field (by decide)]
      refine and_congr_right fun h => ?_
      subst h
      simp [Slot.key, indexSpellings]
    · rw [same_slot_iff r he.stem (by decide) he.field (by decide)]
      refine and_congr_right fun h => ?_
      subst h
      simp [Slot.key, indexSpellings]
  simp only [entityPaths, indexPaths_eq, List.forall_mem_map, List.mem_filter, decide_eq_true_eq, Prod.forall]
  constructor
  · rintro h (⟨hv, hstem⟩ | ⟨hu, hstem⟩)
    · have hplace : (Slot.validators, "index") ∈ indexSlots o := mem_indexSlots.2 (Or.inl ⟨hv, rfl, rfl⟩)
      have := h .validators ⟨by decide, hv, fun h => by cases h⟩ _ _ hplace
      rw [Bool.eq_false_iff] at this
      exact this ((hsame _ _ hplace _).2 ⟨rfl, hstem⟩)
    · have hplace : (Slot.forms, "resources") ∈ indexSlots o := mem_indexSlots.2 (Or.inr ⟨hu, rfl, rfl⟩)
      have := h .forms ⟨by decide, hu, fun h => by cases h⟩ _ _ hplace
      rw [Bool.eq_false_iff] at this
      exact this ((hsame _ _ hplace _).2 ⟨rfl, hstem⟩)
  · rintro h slot' - slot place hplace
    rw [Bool.eq_false_iff, ne_eq, hsame slot place hplace slot']
    rintro ⟨-, hstem⟩
    rcases mem_indexSlots.1 hplace with ⟨hv, rfl, rfl⟩ | ⟨hu, rfl, rfl⟩
    · exact h (Or.inl ⟨hv, hstem⟩)
    · exact h (Or.inr ⟨hu, hstem⟩)

/-- the paths of a plan differ exactly when its entities do not clash and hide no index -/
theorem PlanOf.distinct_iff {o : Options} {r : Renderer} {s : Schema} {names : List String} {p : Plan}
    {generated : List Entity} (h : PlanOf o r s names p generated) (hsound : ∀ e ∈ generated, Sound e) :
    Distinct (p.files.map (·.path)) ↔
      generated.Pairwise (fun e e' => ¬Clash o e e') ∧ ∀ e ∈ generated, ¬HidesIndex o e := by
  have hentities : Distinct (generated.flatMap fun e => entityPaths o r e (spellings e)) ↔
      generated.Pairwise fun e e' => ¬Clash o e e' := by
    have hown : ∀ e ∈ generated, (entityPaths o r e (spellings e)).Pairwise fun a b => Path.same a b = false :=
      fun e he => distinct_entityPaths o r (hsound e he)
    rw [Distinct, List.pairwise_flatMap, and_iff_right hown]
    exact List.Pairwise.iff_of_mem fun he he' => apart_iff o r (hsound _ he) (hsound _ he')
  have hindex : (∀ x ∈ generated.flatMap (fun e => entityPaths o r e (spellings e)), ∀ y ∈ indexPaths o r,
      Path.same x y = false) ↔ ∀ e ∈ generated, ¬HidesIndex o e := by
    simp only [List.mem_flatMap, forall_exists_index, and_imp]
    exact ⟨fun hall e he => (apart_index_iff o r (hsound e he)).1 fun x hx => hall x e he hx,
      fun hall x e he hx => (apart_index_iff o r (hsound e he)).2 (hall e he) x hx⟩
  rw [h.paths]
  by_cases hnames : names = []
  · -- nothing was asked for, so nothing was generated
    rw [if_pos hnames, h.asked hnames]
    simp [Distinct]
  · rw [if_neg hnames, Distinct, List.pairwise_append]
    exact and_congr hentities ⟨fun hall => hindex.1 hall.2, fun hall => ⟨distinct_indexPaths o r, hindex.2 hall⟩⟩

/-! ## Writing into a store -/

namespace Store

/-- contents under their paths, put one after the other -/
def putAll (files : List (String × String)) (stored : List (String × String)) : List (String × String) :=
  files.foldl (fun stored file => putFile file.1 file.2 stored) stored

theorem putFile_of_new {path content : String} {stored : List (String × String)}
    (h : ∀ file ∈ stored, Path.same file.1 path = false) :
    putFile path content stored = stored ++ [(path, content)] := by
  induction stored with
  | nil => rfl
  | cons file stored ih =>
    rw [putFile, if_neg (by simp [h file List.mem_cons_self]), ih fun x hx => h x (List.mem_cons_of_mem _ hx)]
    rfl

theorem length_putFile_of_old {path content : String} {stored : List (String × String)}
    (h : ∃ file ∈ stored, Path.same file.1 path = true) : (putFile path content stored).length = stored.length := by
  induction stored with
  | nil => simp at h
  | cons file stored ih =>
    rw [putFile]
    split
    · rfl
    · next hne =>
      obtain ⟨other, hother, hsame⟩ := h
      rcases List.mem_cons.1 hother with rfl | hother
      · exact absurd hsame hne
      · rw [List.length_cons, List.length_cons, ih ⟨other, hother, hsame⟩]

theorem length_putAll_le (files stored : List (String × String)) :
    (putAll files stored).length ≤ stored.length + files.length := by
  induction files generalizing stored with
  | nil => exact Nat.le_refl _
  | cons file files ih =>
    have hput : (putFile file.1 file.2 stored).length ≤ stored.length + 1 := by
      by_cases h : ∃ old ∈ stored, Path.same old.1 file.1 = true
      · rw [length_putFile_of_old h]; omega
      · rw [putFile_of_new (by simpa using h)]; simp
    have hrest := ih (putFile file.1 file.2 stored)
    have hall : putAll (file :: files) stored = putAll files (putFile file.1 file.2 stored) := rfl
    rw [hall, List.length_cons]
    omega

/-- a store keeps every file that is put into it exactly when the paths differ, from one another and from those
that are there -/
theorem putAll_spec (files stored : List (String × String)) :
    ((putAll files stored).length = stored.length + files.length ↔
      Distinct (files.map (·.1)) ∧ ∀ file ∈ files, ∀ old ∈ stored, Path.same old.1 file.1 = false) ∧
    ((putAll files stored).length = stored.length + files.length → putAll files stored = stored ++ files) := by
  induction files generalizing stored with
  | nil => simp [putAll, Distinct]
  | cons file files ih =>
    have hall : putAll (file :: files) stored = putAll files (putFile file.1 file.2 stored) := rfl
    by_cases h : ∃ old ∈ stored, Path.same old.1 file.1 = true
    · -- the file takes the place of another: one is missing for good
      have hlen := length_putAll_le files (putFile file.1 file.2 stored)
      rw [length_putFile_of_old h] at hlen
      have hfalse : ¬(putAll (file :: files) stored).length = stored.length + (file :: files).length := by
        rw [hall, List.length_cons]; omega
      refine ⟨iff_of_false hfalse fun hd => ?_, fun hl => absurd hl hfalse⟩
      obtain ⟨old, hold, hsame⟩ := h
      rw [hd.2 file List.mem_cons_self old hold] at hsame
      cases hsame
    · have hnew : ∀ old ∈ stored, Path.same old.1 file.1 = false := by simpa using h
      obtain ⟨h1, h2⟩ := ih (stored ++ [file])
      have hlength : stored.length + (file :: files).length = (stored ++ [file]).length + files.length := by
        simp; omega
      have hput : putFile file.1 file.2 stored = stored ++ [file] := putFile_of_new hnew
      rw [hall, hput, hlength, h1]
      refine ⟨?_, fun hl => by rw [h2 (h1.2 hl)]; simp⟩
      simp only [Distinct, List.map_cons, List.pairwise_cons, List.forall_mem_map, List.forall_mem_cons,
        List.mem_append, List.mem_singleton]
      constructor
      · rintro ⟨hfiles, hold⟩
        exact ⟨⟨fun x hx => hold x hx file (Or.inr rfl), hfiles⟩, hnew, fun x hx old ho => hold x hx old (Or.inl ho)⟩
      · rintro ⟨⟨hfile, hfiles⟩, -, hold⟩
        refine ⟨hfiles, fun x hx old ho => ?_⟩
        rcases ho with ho | rfl
        · exact hold x hx old ho
        · exact hfile x hx

end Store

theorem writeAll_store (reason : String) (files : List PlannedFile) (s : Store) :
    ((Store.writer [] reason).writeAll files).run s =
      (.ok (), ⟨Store.putAll (files.map fun f => (f.path, f.content)) s.files⟩) := by
  induction files generalizing s with
  | nil => rfl
  | cons file files ih => exact ih (s.put file.path file.content)

/-- **Paths of a plan.** The paths of a plan for a loaded document differ pairwise exactly when no two of its entities
clash and none hides an index. A run into an empty store reports all paths; it leaves as many files as it reports
exactly when they differ, and then the store holds every file of the plan. -/
theorem plan_distinct_iff (strict : Bool) (source : String) (o : Options) (r : Renderer) (names : List String)
    (outcome : Document.Outcome) (p : Plan) (reason : String) (hl : Document.load strict source = .ok outcome)
    (hp : plan o r outcome.schema names = .ok p) :
    (Distinct (p.files.map (·.path)) ↔
      (p.report.generated.filterMap outcome.schema.entity?).Pairwise (fun e e' => ¬Clash o e e') ∧
        ∀ e ∈ p.report.generated.filterMap outcome.schema.entity?, ¬HidesIndex o e) ∧
    ∃ report store, (generate o r (Store.writer [] reason) outcome.schema names).run .empty = (.ok report, store) ∧
      report.written = p.files.map (·.path) ∧
      (store.files.length = report.written.length ↔ Distinct (p.files.map (·.path))) ∧
      (Distinct (p.files.map (·.path)) → store.files = p.files.map fun f => (f.path, f.content)) := by
  obtain ⟨generated, h⟩ := plan_ok hp
  rw [h.entities]
  refine ⟨h.distinct_iff fun e he => ⟨slash_not_mem_fileStem (h.spelled e he),
    slash_not_mem_identifierField (h.hasFieldNames hl he)⟩, ?_⟩
  obtain ⟨h1, h2⟩ := Store.putAll_spec (p.files.map fun f => (f.path, f.content)) []
  have hpaths : (p.files.map fun f => (f.path, f.content)).map (·.1) = p.files.map (·.path) := by simp
  rw [hpaths] at h1
  refine ⟨{ p.report with written := p.files.map (·.path) },
    ⟨Store.putAll (p.files.map fun f => (f.path, f.content)) []⟩, ?_, rfl, ?_, fun hd => ?_⟩
  · rw [generate, hp]
    simp only [Writer.carryOut, StateT.run_bind, writeAll_store]
    rfl
  · simpa using h1
  · simpa using h2 (h1.2 ⟨hd, by simp⟩)

def blogAndPost : String := "model Blog {
  id Int @id
}
model Post {
  id Int @id
}
"

/-- the files of two models with different stems are all kept -/
theorem plan_distinct_blogAndPost : ∃ outcome p report store, Document.load false blogAndPost = .ok outcome ∧
    plan ⟨.topological, [.service, .endpoint]⟩ .json outcome.schema ["Blog", "Post"] = .ok p ∧
    (generate ⟨.topological, [.service, .endpoint]⟩ .json (Store.writer [] "") outcome.schema
      ["Blog", "Post"]).run .empty =
      (.ok report, store) ∧ report.written.length = 6 ∧ store.files.length = 6 := by
  have h : plannedPaths blogAndPost ⟨.topological, [.service, .endpoint]⟩ ["Blog", "Post"] = some (["Blog", "Post"],
      ["services/blog.json", "api/blogs/index.json", "api/blogs/[id].json",
        "services/post.json", "api/posts/index.json", "api/posts/[id].json"]) := by decide +kernel
  obtain ⟨outcome, p, hload, hplan, -, hpaths⟩ := plannedPaths_eq_some h
  obtain ⟨-, report, store, hrun, hwritten, hlength, -⟩ :=
    plan_distinct_iff false _ _ .json _ outcome p "" hload hplan
  rw [hwritten, hpaths] at hlength
  refine ⟨outcome, p, report, store, hload, hplan, hrun, by rw [hwritten, hpaths]; rfl, hlength.2 ?_⟩
  unfold Distinct
  decide +kernel

def blogTwice : String := "model Blog {
  id Int @id
}
model blog {
  id Int @id
}
"

/-- two names that differ only in case have their services under one path -/
theorem plan_collides_blogTwice : ∃ outcome p, Document.load false blogTwice = .ok outcome ∧
    plan ⟨.topological, [.service]⟩ .json outcome.schema ["Blog", "blog"] = .ok p ∧
    ¬Distinct (p.files.map (·.path)) := by
  have h : plannedPaths blogTwice ⟨.topological, [.service]⟩ ["Blog", "blog"] =
      some (["Blog", "blog"], ["services/blog.json", "services/blog.json"]) := by decide +kernel
  obtain ⟨outcome, p, hload, hplan, -, hpaths⟩ := plannedPaths_eq_some h
  refine ⟨outcome, p, hload, hplan, ?_⟩
  rw [hpaths]
  unfold Distinct
  decide +kernel

end EntityScaffold

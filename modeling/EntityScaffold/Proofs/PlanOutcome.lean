import EntityScaffold.Proofs.Fate
import EntityScaffold.Proofs.References

/-!
Plans by look-ups. The entities of a selection are looked up at their places and put in order by theirs, and each has
its parts built. A name without a plural leaves all of it without an outcome, and nothing else does (`planAt_eq`).
-/

namespace EntityScaffold

open Artifact Document

def Cut.missing {ε α : Type} : Cut ε α := ExceptT.mk none

/-! ## Selections -/

/-- a selection with one more name, its entity looked up at its place -/
def Selection.addAt (s : Schema) (chosen : Selection) (name : String) : Option Selection := do
  match ← s.entityAt? name with
  | none => some { chosen with unknown := chosen.unknown ++ [name] }
  | some e =>
    if chosen.entities.any (·.name = e.name) then some chosen
    else some { chosen with entities := chosen.entities ++ [e] }

/-- the entities of names, looked up at their places -/
def Schema.selectAt (s : Schema) (names : List String) : Option Selection := names.foldlM (Selection.addAt s) ⟨[], []⟩

theorem selectAt_eq {s : Schema} (h : (s.entities.map (·.name)).Nodup) (names : List String) :
    s.selectAt names = some (s.select names) := by
  have hadd : ∀ chosen name, Selection.addAt s chosen name = some (Selection.add s chosen name) := by
    intro chosen name
    unfold Selection.addAt Selection.add
    rw [entityAt?_eq h, Option.bind_eq_bind, Option.bind_some]
    cases s.entity? name with
    | none => rfl
    | some e => exact (apply_ite some _ _ _).symm
  unfold Schema.selectAt Schema.select
  generalize (⟨[], []⟩ : Selection) = chosen
  induction names generalizing chosen with
  | nil => rfl
  | cons name names ih =>
    rw [List.foldlM_cons, hadd, Option.bind_eq_bind, Option.bind_some, ih, List.foldl_cons]

/-! ## Plans -/

/-- an outcome that a name without a plural leaves without one -/
def spelledOut {α : Type} : Except GenerateError α → Cut GenerateError α
  | .error (.noPlural _) => .missing
  | outcome => .done outcome

/-- the plan for the entities of the names, all of them looked up at their places -/
def planAt (o : Options) (r : Renderer) (s : Schema) (names : List String) : Cut GenerateError Plan :=
  if names = [] then pure .empty
  else do
    let selection ← liftM (s.selectAt names)
    let emission ← liftM (Emission.orderAt o.strategy selection.entities)
    spelledOut (planEmission .sequential o r s selection.unknown emission)

section Plans

variable {schedule : Schedule} {o : Options} {r : Renderer} {s : Schema}

theorem planEntity_stuck {e : Entity} (h : entityFate o s e = .stuck) :
    ∃ name, planEntity o r s e = .error (.noPlural name) := by
  rw [← Fate.of_entityParts] at h
  unfold planEntity
  match hparts : entityParts o s e, h with
  | .error (.noPlural name), _ => exact ⟨name, rfl⟩

theorem planEntity_ok {e : Entity} (h : entityFate o s e ≠ .stuck) : ∃ result, planEntity o r s e = .ok result := by
  rw [← Fate.of_entityParts] at h
  unfold planEntity
  match hparts : entityParts o s e, h with
  | .error (.noPlural name), h => exact absurd rfl h
  | .error (.flaw error), _ => exact ⟨_, rfl⟩
  | .ok parts, _ =>
    dsimp only
    cases parts.mapM (entityFile r e) <;> exact ⟨_, rfl⟩

theorem isSpelled_of_fate {e : Entity} (h : entityFate o s e ≠ .stuck) : isSpelled e.name = true := by
  by_contra hnot
  rw [entityFate, if_neg hnot] at h
  exact h rfl

theorem mapM_planEntity_stuck {entities : List Entity} (h : ∃ e ∈ entities, entityFate o s e = .stuck) :
    ∃ name, entities.mapM (planEntity o r s) = .error (.noPlural name) := by
  induction entities with
  | nil =>
    obtain ⟨e, he, -⟩ := h
    cases he
  | cons first entities ih =>
    rw [List.mapM_cons]
    by_cases hfirst : entityFate o s first = .stuck
    · obtain ⟨name, hname⟩ := planEntity_stuck (r := r) hfirst
      exact ⟨name, by rw [hname]; rfl⟩
    · obtain ⟨result, hresult⟩ := planEntity_ok (r := r) hfirst
      obtain ⟨e, he, hstuck⟩ := h
      rcases List.mem_cons.1 he with rfl | he
      · exact absurd hstuck hfirst
      · obtain ⟨name, hname⟩ := ih ⟨e, he, hstuck⟩
        exact ⟨name, by rw [hresult, hname]; rfl⟩

theorem planEmission_stuck {emission : Emission} (unknown : List String)
    (h : ∃ e ∈ emission.entities, entityFate o s e = .stuck) :
    spelledOut (planEmission schedule o r s unknown emission) = .missing := by
  obtain ⟨name, hname⟩ := mapM_planEntity_stuck (r := r) h
  rw [planEmission_eq, hname]
  rfl

/-- the outcome is not refused for want of a plural -/
def IsSpelled {α : Type} (x : Except GenerateError α) : Prop := ∀ name, x ≠ .error (.noPlural name)

theorem IsSpelled.spelledOut {α : Type} {x : Except GenerateError α} (h : IsSpelled x) : spelledOut x = .done x := by
  match x, h with
  | .ok _, _ => rfl
  | .error (.render _ _), _ => rfl
  | .error (.write _ _), _ => rfl
  | .error (.noPlural name), h => exact absurd rfl (h name)

theorem isSpelled_indexFile {kind : ArtifactKind} {template : Template} {stem : String} {index : IndexModel} :
    IsSpelled (indexFile o r kind template stem index) := by
  unfold indexFile
  split
  · split <;> exact fun name => by simp
  · exact fun name => by simp

theorem indexModel_isOk {entities : List Entity} (h : ∀ e ∈ entities, isSpelled e.name = true) :
    ∃ index, indexModel entities = .ok index := by
  cases hindex : indexModel entities with
  | ok index => exact ⟨index, rfl⟩
  | error w =>
    rcases bind_error hindex with hentries | ⟨entries, -, hmodel⟩
    · obtain ⟨e, he, hnone⟩ := mapM_error hentries
      obtain ⟨names, hnames⟩ := Option.isSome_iff_exists.1 (h e he)
      rw [hnames] at hnone
      cases hnone
    · cases hmodel

/-- where no entity is stuck, a plan is refused at a file that lists the entities -/
theorem planEmission_error {emission : Emission} {unknown : List String} {w : GenerateError}
    (h : ∀ e ∈ emission.entities, entityFate o s e ≠ .stuck)
    (hplan : planEmission schedule o r s unknown emission = .error w) :
    ∃ kind template stem index, indexFile o r kind template stem index = .error w := by
  obtain ⟨results, hresults⟩ := mapM_isOk fun e he => planEntity_ok (r := r) (h e he)
  have hspelled : ∀ e ∈ ((emission.entities.zip results).filter (·.2.isGenerated)).map (·.1),
      isSpelled e.name = true := by
    intro e he
    obtain ⟨⟨e', result⟩, hmem, rfl⟩ := List.mem_map.1 he
    exact isSpelled_of_fate (h e' (List.of_mem_zip (List.mem_filter.1 hmem).1).1)
  obtain ⟨index, hindex⟩ := indexModel_isOk hspelled
  rw [planEmission_eq, hresults] at hplan
  rcases bind_error hplan with hok | ⟨results', hok, hplan⟩
  · cases hok
  cases hok
  rcases bind_error hplan with hfail | ⟨index', -, hplan⟩
  · rw [hindex] at hfail
    cases hfail
  rcases bind_error hplan with hfail | ⟨validators, -, hplan⟩
  · exact ⟨_, _, _, _, hfail⟩
  rcases bind_error hplan with hfail | ⟨resources, -, hplan⟩
  · exact ⟨_, _, _, _, hfail⟩
  · cases hplan

theorem planEmission_spelled {emission : Emission} (unknown : List String)
    (h : ∀ e ∈ emission.entities, entityFate o s e ≠ .stuck) :
    IsSpelled (planEmission schedule o r s unknown emission) := by
  intro name hplan
  obtain ⟨kind, template, stem, index, hfail⟩ := planEmission_error h hplan
  exact isSpelled_indexFile name hfail

/-- **Plans by look-ups.** A plan is made, or refused, exactly when no entity is stuck. -/
theorem planAt_eq (h : (s.entities.map (·.name)).Nodup) (names : List String) :
    planAt o r s names =
      if ∃ e ∈ emitted o s names, entityFate o s e = .stuck then .missing else .done (plan o r s names) := by
  unfold planAt plan planWith
  by_cases hnames : names = []
  · subst hnames
    have hnone : emitted o s [] = [] := List.perm_nil.1 (emitted_perm o s [])
    simp [hnone]
  · rw [if_neg hnames, if_neg hnames, selectAt_eq h, Cut.lift_some, Cut.done_ok_bind,
      Emission.orderAt_eq (select_selected s names).once, Cut.lift_some, Cut.done_ok_bind]
    split
    · next hstuck => exact planEmission_stuck _ hstuck
    · next hstuck =>
      exact (planEmission_spelled _ fun e he hfate => hstuck ⟨e, he, hfate⟩).spelledOut

end Plans

/-! ## Names of ASCII -/

/-- a field fails for want of a plural only at a target that has none -/
theorem Fate.ofField_ne_stuck {s : Schema} {spelled : String → Bool} (h : ∀ e ∈ s.entities, spelled e.name = true)
    (f : Field) : ofField s spelled f ≠ .stuck := by
  unfold ofField
  split
  · split
    · next related hrelated => rw [if_pos (h related (entity?_mem hrelated))]; exact nofun
    · split <;> exact nofun
  · exact nofun

theorem entityFate_plain {o : Options} {s : Schema} (h : ∀ e ∈ s.entities, IsPlainName e.name) {e : Entity}
    (he : e ∈ s.entities) : entityFate o s e ≠ .stuck := by
  refine Fate.entityFate_ne (by decide) (h e he).spelled.1 fun spelled hspelled f _ =>
    Fate.ofField_ne_stuck (fun x hx => ?_) f
  simp only [List.mem_cons, List.not_mem_nil, or_false] at hspelled
  rcases hspelled with rfl | rfl | rfl
  · exact (h x hx).spelled.1
  · rfl
  · exact (h x hx).spelled.2

/-- **From the text to a plan.** Whatever a document holds, strictly read or not: every cut and every look-up on the way
to its schema and to its canonical text has an outcome, that of reading and of formatting; the depth of a clause stays
within the number of its characters; every name is split at its last word, and every entity looked up under its name is
at its place. For every selection, order, set of kinds and renderer a plan has its outcome, unless an entity that is
emitted is stuck, and then it has none: one of the plurals that its artifacts need has no stem. Where all names are of
ASCII, that is never so. -/
theorem document_outcomes (o : Options) (r : Renderer) (strict : Bool) (source : String) (names : List String) :
    cutRead strict source = .done (read strict source) ∧ cutFormat source = .done (format source) ∧
    (∀ text : List Char, (text.foldl Line.Extent.next .start).depth.natAbs ≤ text.length) ∧
    (∀ text, Text.cutPlural text = Text.plural text) ∧
    ∀ outcome, load strict source = .ok outcome →
      (∀ name, outcome.schema.entityAt? name = some (outcome.schema.entity? name)) ∧
      (planAt o r outcome.schema names =
        if ∃ e ∈ emitted o outcome.schema names, entityFate o outcome.schema e = .stuck then .missing
        else .done (plan o r outcome.schema names)) ∧
      ((∀ e ∈ outcome.schema.entities, IsPlainName e.name) →
        ∀ e ∈ emitted o outcome.schema names, entityFate o outcome.schema e ≠ .stuck) := by
  refine ⟨cutRead_eq strict source, cutFormat_eq source, fun text => ?_, Text.cutPlural_eq, fun outcome hload => ?_⟩
  · simpa [Line.Extent.start] using Line.foldl_depth .start text
  · have hnodup := load_entityNames hload
    refine ⟨entityAt?_eq hnodup, planAt_eq hnodup names, fun hplain e he => ?_⟩
    exact entityFate_plain hplain (entity?_mem ((emitted_selected o _ names).found e he))

/-- a document with a model whose name starts with the Kelvin sign, which has three bytes, and one in lower case -/
def kelvinSource : String :=
  "model \u212ay \x7b\n  id Int @id\n\x7d\nmodel Post \x7b\n  id Int @id\n\x7d\n"

def kelvinSchema : Schema := ⟨[⟨"\u212ay", 1, [idField]⟩, ⟨"Post", 4, [idField]⟩], [], []⟩

/-- a model beside one whose stem cannot be cut is planned alone -/
theorem document_outcomes_post : ∃ outcome, load false kelvinSource = .ok outcome ∧
    planAt .all .json outcome.schema ["Post"] = .done (plan .all .json outcome.schema ["Post"]) ∧
    (plan .all .json outcome.schema ["Post"]).toOption.map (·.report.generated) = some ["Post"] := by
  have hload : (load false kelvinSource).toOption.map (·.schema) = some kelvinSchema := by decide +kernel
  have hplan : (plan .all .json kelvinSchema ["Post"]).toOption.map (·.report.generated) = some ["Post"] := by
    decide +kernel
  have hfates : ¬∃ e ∈ emitted .all kelvinSchema ["Post"], entityFate .all kelvinSchema e = .stuck := by
    decide +kernel
  obtain ⟨outcome, hload, hschema⟩ := ok_of_toOption_map hload
  obtain ⟨-, -, -, -, houtcomes⟩ := document_outcomes .all .json false kelvinSource ["Post"]
  obtain ⟨-, hplanAt, -⟩ := houtcomes outcome hload
  rw [hschema, if_neg hfates] at hplanAt
  refine ⟨outcome, hload, ?_⟩
  rw [hschema]
  exact ⟨hplanAt, hplan⟩

/-- the plural needs the stem `k` of the name: one byte of the three that its first letter has -/
theorem planAt_missing_kelvin : ∃ outcome, load false kelvinSource = .ok outcome ∧
    Text.takeBytes (Text.byteCount "k".toList) "\u212ay".toList = none ∧
    planAt ⟨.topological, []⟩ .json outcome.schema ["\u212ay"] = .missing := by
  have hload : (load false kelvinSource).toOption.map (·.schema) = some kelvinSchema := by decide +kernel
  have hstuck : ∃ e ∈ emitted ⟨.topological, []⟩ kelvinSchema ["\u212ay"],
      entityFate ⟨.topological, []⟩ kelvinSchema e = .stuck := by decide +kernel
  have hplan : planAt ⟨.topological, []⟩ .json kelvinSchema ["\u212ay"] = .missing := by
    rw [planAt_eq (by decide), if_pos hstuck]
  obtain ⟨outcome, hload, hschema⟩ := ok_of_toOption_map hload
  rw [← hschema] at hplan
  exact ⟨outcome, hload, by decide, hplan⟩

end EntityScaffold

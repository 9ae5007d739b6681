import EntityScaffold.Proofs.Listing

/-!
The fields picked for related records. Records of another entity are connected by a key and shown by a text, each the
name of a field that is picked for that entity: its identifier, or its first text field, or, when there is none of
these, `id`. The entity need not have a field of that name, even with a scalar field to pick (`picks_exist`).
-/

namespace EntityScaffold.Artifact

def HasField (e : Entity) (name : String) : Prop := name ∈ e.fields.map (·.name)

instance (e : Entity) (name : String) : Decidable (HasField e name) := inferInstanceAs (Decidable (_ ∈ _))

/-- a text field that is not marked as identifier -/
def IsTextField (f : Field) : Prop := f.isId = false ∧ f.scalar? = some .string

/-- what is picked to connect records of an entity by -/
structure KeyPick (related : Entity) (key : String) : Prop where
  exists_iff : HasField related key ↔ Identified related ∨ HasField related "id"
  identifier : ∀ id, identifier? related = some id → key = id.field

/-- what is picked to show records of an entity by -/
structure TextPick (related : Entity) (text : String) : Prop where
  exists_iff : HasField related text ↔
    (∃ f ∈ related.fields, IsTextField f) ∨ related.idField?.isSome = true ∨ HasField related "id"
  /-- without a text field, it is the identifier exactly if that is a marked field, or a surrogate called `id` -/
  identifier_iff : (∀ f ∈ related.fields, ¬IsTextField f) →
    ((identifier? related).map (·.field) = some text ↔
      (∃ f, related.idField? = some f ∧ f.isRelation = false) ∨
      related.idField? = none ∧ related.scalarFields.head?.map (·.name) = some "id")

/-! ## Keys -/

theorem hasField_of_mem {e : Entity} {f : Field} (h : f ∈ e.fields) : HasField e f.name := List.mem_map_of_mem h

theorem hasField_identifier {e : Entity} {id : Identifier} (h : identifier? e = some id) : HasField e id.field := by
  unfold identifier? at h
  split at h
  · next f hf =>
    obtain ⟨scalar, -, rfl⟩ := Option.map_eq_some_iff.1 h
    exact hasField_of_mem (List.mem_of_find?_eq_some hf)
  · obtain ⟨f, hf, h⟩ := Option.bind_eq_some_iff.1 h
    obtain ⟨scalar, -, rfl⟩ := Option.map_eq_some_iff.1 h
    exact hasField_of_mem (head?_scalarFields hf).1

theorem targetKey_pick (related : Entity) : KeyPick related (targetKey related) := by
  unfold targetKey
  cases hid : identifier? related with
  | some id =>
    have hidentified : Identified related := (identifier?_isSome_iff related).1 (by rw [hid]; rfl)
    exact ⟨iff_of_true (hasField_identifier hid) (Or.inl hidentified), fun id' h => by cases hid ▸ h; rfl⟩
  | none =>
    have hnot : ¬Identified related := by
      rw [← identifier?_isSome_iff, hid]
      exact nofun
    exact ⟨by simp [hnot], fun id' h => by rw [hid] at h; cases h⟩

/-! ## Texts -/

theorem find?_textField {e : Entity} {f : Field}
    (h : (e.scalarFields.find? fun f => !f.isId && f.scalar? = some .string) = some f) :
    f ∈ e.fields ∧ IsTextField f := by
  have hmem := (List.mem_filter.1 (List.mem_of_find?_eq_some h)).1
  have htext := List.find?_some h
  simp only [Bool.and_eq_true, Bool.not_eq_true', decide_eq_true_eq] at htext
  exact ⟨hmem, htext⟩

theorem find?_textField_eq_none {e : Entity}
    (h : (e.scalarFields.find? fun f => !f.isId && f.scalar? = some .string) = none) :
    ∀ f ∈ e.fields, ¬IsTextField f := by
  rintro f hf ⟨hid, hscalar⟩
  have hrelation : f.isRelation = false := scalar?_isSome.1 (by rw [hscalar]; rfl)
  have hnot := List.find?_eq_none.1 h f (List.mem_filter.2 ⟨hf, by simp [hrelation]⟩)
  simp [hid, hscalar] at hnot

theorem optionText_pick (related : Entity) : TextPick related (optionText related) := by
  unfold optionText
  cases htext : related.scalarFields.find? fun f => !f.isId && f.scalar? = some .string with
  | some f =>
    obtain ⟨hf, hfield⟩ := find?_textField htext
    exact ⟨iff_of_true (hasField_of_mem hf) (Or.inl ⟨f, hf, hfield⟩), fun hnone => absurd hfield (hnone f hf)⟩
  | none =>
    have hnone := find?_textField_eq_none htext
    have hnot : ¬∃ f ∈ related.fields, IsTextField f := fun ⟨f, hf, hfield⟩ => hnone f hf hfield
    cases hid : related.idField? with
    | some f =>
      have hf : f ∈ related.fields := List.mem_of_find?_eq_some hid
      refine ⟨iff_of_true (hasField_of_mem hf) (Or.inr (Or.inl (by rw [hid]; rfl))), fun _ => ?_⟩
      unfold identifier?
      cases hscalar : f.scalar? <;> simp [hid, hscalar, Field.isRelation]
    | none =>
      refine ⟨by simp [hnot, hid], fun _ => ?_⟩
      unfold identifier?
      cases hhead : related.scalarFields.head? with
      | none => simp [hid]
      | some f =>
        obtain ⟨scalar, hscalar⟩ := Option.isSome_iff_exists.1 (scalar?_isSome.2 (head?_scalarFields hhead).2)
        simp [hid, hscalar]

/-! ## Models -/

section Models

variable {s : Schema} {e : Entity}

theorem service_connections {m : ServiceModel} (h : service s e = .ok m) {c : Connection} (hc : c ∈ m.connections) :
    ∃ related, s.entity? c.target = some related ∧ c.targetKey = targetKey related := by
  rw [service_eq] at h
  obtain ⟨-, rfl⟩ := unlessProblem_eq_ok h
  obtain ⟨f, -, hf⟩ := List.mem_filterMap.1 hc
  obtain ⟨related, hrelated, hf⟩ := Option.bind_eq_some_iff.1 hf
  split at hf
  · cases hf
    exact ⟨related, by rw [entity?_name hrelated]; exact hrelated, rfl⟩
  · cases hf

theorem form_resource {g : FormModel} (h : form s e = .ok g) {i : Nat} {f : Field} {shown : FormField}
    {ref : ResourceRef} (hf : e.fields[i]? = some f) (hshown : g.fields[i]? = some shown)
    (href : shown.resource = some ref) : ∃ related, s.entity? f.baseType = some related ∧
      ref.optionText = optionText related := by
  rw [form_eq] at h
  obtain ⟨-, rfl⟩ := unlessProblem_eq_ok h
  rw [formOf, List.getElem?_map, hf, Option.map_some] at hshown
  cases hshown
  unfold shownField displayOf at href
  split at href
  · cases href
  · split at href
    · next related hrelated =>
      cases href
      exact ⟨related, hrelated, rfl⟩
    · cases href

end Models

/-- **Picks.** For every entity whose service and form are built: the key of a connection is a field of the related
entity exactly if that entity can be identified, or has a field called `id`; the text of a choice is one exactly if it
has a text field, or a marked one, or one called `id`. The key is the identifier where there is one; the text is, for
want of a text field, exactly if a scalar field is marked, or none is and the first scalar field is called `id`. -/
theorem picks_exist (s : Schema) (e : Entity) (m : ServiceModel) (g : FormModel) (hm : service s e = .ok m)
    (hg : form s e = .ok g) :
    (∀ c ∈ m.connections, ∃ related, s.entity? c.target = some related ∧ KeyPick related c.targetKey) ∧
    ∀ (i : Nat) (f : Field) (shown : FormField) (ref : ResourceRef), e.fields[i]? = some f →
      g.fields[i]? = some shown → shown.resource = some ref →
      ∃ related, s.entity? f.baseType = some related ∧ TextPick related ref.optionText := by
  constructor
  · intro c hc
    obtain ⟨related, hrelated, hkey⟩ := service_connections hm hc
    exact ⟨related, hrelated, hkey ▸ targetKey_pick related⟩
  · intro i f shown ref hf hshown href
    obtain ⟨related, hrelated, htext⟩ := form_resource hg hf hshown href
    exact ⟨related, hrelated, htext ▸ optionText_pick related⟩

def parcelSource : String :=
  "model Parcel \x7b\n  id Int @id\n  depot Depot\n  stops Stop[]\n\x7d\nmodel Depot \x7b\n  key Int\n\x7d\n" ++
    "model Stop \x7b\n  parcel Parcel @id\n  rank Int\n\x7d\n"

def relationField (name rawType : String) (isId : Bool) : Field :=
  ⟨name, rawType, isId, false, false, false, none, none, .implicit⟩

def numberField (name : String) : Field := ⟨name, "Int", false, false, false, false, none, none, .none⟩

def parcelEntity : Entity :=
  ⟨"Parcel", 1, [idField, relationField "depot" "Depot" false, relationField "stops" "Stop[]" false]⟩

def depotEntity : Entity := ⟨"Depot", 6, [numberField "key"]⟩

def stopEntity : Entity := ⟨"Stop", 9, [relationField "parcel" "Parcel" true, numberField "rank"]⟩

def parcelSchema : Schema := ⟨[parcelEntity, depotEntity, stopEntity], [], []⟩

/-- records of a stop are shown by the marked field, since there is one -/
theorem picks_exist_stop : ∃ m g shown ref, service parcelSchema parcelEntity = .ok m ∧
    form parcelSchema parcelEntity = .ok g ∧ g.fields[2]? = some shown ∧ shown.resource = some ref ∧
    HasField stopEntity ref.optionText := by
  have hm : (service parcelSchema parcelEntity).toOption.map (fun m => m.connections.map (·.target)) =
      some ["Stop"] := by decide +kernel
  have hg : (form parcelSchema parcelEntity).toOption.map (fun g => (g.fields[2]?.bind (·.resource)).map (·.name)) =
      some (some "stops") := by decide +kernel
  obtain ⟨m, hm, -⟩ := ok_of_toOption_map hm
  obtain ⟨g, hg, hshown⟩ := ok_of_toOption_map hg
  obtain ⟨ref, href, -⟩ := Option.map_eq_some_iff.1 hshown
  obtain ⟨shown, hshown, href⟩ := Option.bind_eq_some_iff.1 href
  obtain ⟨-, htexts⟩ := picks_exist parcelSchema parcelEntity m g hm hg
  obtain ⟨related, hrelated, htext⟩ := htexts 2 (relationField "stops" "Stop[]" false) shown ref rfl hshown href
  have hstop : parcelSchema.entity? (relationField "stops" "Stop[]" false).baseType = some stopEntity := by
    decide +kernel
  rw [hstop] at hrelated
  cases hrelated
  exact ⟨m, g, shown, ref, hm, hg, hshown, href, htext.exists_iff.2 (Or.inr (Or.inl (by decide)))⟩

/-- fields that the related models do not have, each with a scalar field: the text of a depot and the key of a stop -/
theorem picks_stray_parcel : ∃ outcome m g, Document.load false parcelSource = .ok outcome ∧
    service outcome.schema parcelEntity = .ok m ∧ form outcome.schema parcelEntity = .ok g ∧
    m.connections = [⟨"stops", "Stop", "id"⟩] ∧
    (g.fields.filterMap (·.resource)).map (·.optionText) = ["id", "parcel"] ∧
    depotEntity ∈ outcome.schema.entities ∧ depotEntity.scalarFields ≠ [] ∧ ¬HasField depotEntity "id" ∧
    stopEntity ∈ outcome.schema.entities ∧ stopEntity.scalarFields ≠ [] ∧ ¬HasField stopEntity "id" := by
  have hload : (Document.load false parcelSource).toOption.map (·.schema) = some parcelSchema := by decide +kernel
  have hm : (service parcelSchema parcelEntity).toOption.map (·.connections) = some [⟨"stops", "Stop", "id"⟩] := by
    decide +kernel
  have hg : (form parcelSchema parcelEntity).toOption.map (fun g =>
      (g.fields.filterMap (·.resource)).map (·.optionText)) = some ["id", "parcel"] := by decide +kernel
  obtain ⟨outcome, hload, hschema⟩ := ok_of_toOption_map hload
  obtain ⟨m, hm, hconnections⟩ := ok_of_toOption_map hm
  obtain ⟨g, hg, htexts⟩ := ok_of_toOption_map hg
  rw [← hschema] at hm hg
  refine ⟨outcome, m, g, hload, hm, hg, hconnections, htexts, ?_, by decide +kernel, by decide, ?_, by decide +kernel,
    by decide⟩
  · rw [hschema]
    decide
  · rw [hschema]
    decide

end EntityScaffold.Artifact

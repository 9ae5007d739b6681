import EntityScaffold.Document.Loading
import EntityScaffold.Proofs.Reading

/-!
What a document that was loaded holds. Binding keys changes nothing but the links of fields
(`bindKeys_entities`), so the names of a loaded schema are those that were read: every field has an identifier
for its name (`load_fieldNames`), and no two entities share theirs (`load_entityNames`).
-/

namespace EntityScaffold

/-! ## Outcomes of sequences -/

/-- a sequence that succeeds succeeds at both steps -/
theorem bind_ok {ε α β : Type} {x : Except ε α} {f : α → Except ε β} {b : β} (h : (x >>= f) = .ok b) :
    ∃ a, x = .ok a ∧ f a = .ok b := by
  cases x with
  | error e => cases h
  | ok a => exact ⟨a, rfl, h⟩

/-- a sequence that fails does so at one of its steps -/
theorem bind_error {ε α β : Type} {x : Except ε α} {f : α → Except ε β} {w : ε} (h : (x >>= f) = .error w) :
    x = .error w ∨ ∃ a, x = .ok a ∧ f a = .error w := by
  cases x with
  | error e => cases h; exact Or.inl rfl
  | ok a => exact Or.inr ⟨a, rfl, h⟩

/-- a list that is mapped with success is mapped element by element -/
theorem mapM_ok {ε α β : Type} {f : α → Except ε β} {l : List α} {r : List β} (h : l.mapM f = .ok r) :
    List.Forall₂ (fun a b => f a = .ok b) l r := by
  induction l generalizing r with
  | nil =>
    rw [List.mapM_nil] at h
    cases h
    exact .nil
  | cons a l ih =>
    rw [List.mapM_cons] at h
    obtain ⟨b, hb, h⟩ := bind_ok h
    obtain ⟨bs, hbs, h⟩ := bind_ok h
    cases h
    exact .cons hb (ih hbs)

theorem mapM_of_forall₂ {ε α β : Type} {f : α → Except ε β} {l : List α} {r : List β}
    (h : List.Forall₂ (fun a b => f a = .ok b) l r) : l.mapM f = .ok r := by
  induction h with
  | nil => rfl
  | cons hb _ ih =>
    rw [List.mapM_cons, hb, ih]
    rfl

/-- a list is mapped with success when each of its elements is -/
theorem mapM_isOk {ε α β : Type} {f : α → Except ε β} {l : List α} (h : ∀ a ∈ l, ∃ b, f a = .ok b) :
    ∃ r, l.mapM f = .ok r := by
  induction l with
  | nil => exact ⟨[], rfl⟩
  | cons a l ih =>
    obtain ⟨b, hb⟩ := h a List.mem_cons_self
    obtain ⟨r, hr⟩ := ih fun x hx => h x (List.mem_cons_of_mem _ hx)
    exact ⟨b :: r, by rw [List.mapM_cons, hb, hr]; rfl⟩

/-- a list that is not mapped fails at one of its elements -/
theorem mapM_error {ε α β : Type} {f : α → Except ε β} {l : List α} {w : ε} (h : l.mapM f = .error w) :
    ∃ a ∈ l, f a = .error w := by
  induction l with
  | nil => cases h
  | cons a l ih =>
    rw [List.mapM_cons] at h
    cases ha : f a with
    | error w' => rw [ha] at h; cases h; exact ⟨a, List.mem_cons_self, ha⟩
    | ok b =>
      cases hl : l.mapM f with
      | error w' =>
        rw [ha, hl] at h
        cases h
        obtain ⟨x, hx, hfx⟩ := ih hl
        exact ⟨x, List.mem_cons_of_mem _ hx, hfx⟩
      | ok bs => rw [ha, hl] at h; cases h

theorem mapError_ok {ε ε' α : Type} {f : ε → ε'} {x : Except ε α} {a : α} (h : x.mapError f = .ok a) : x = .ok a := by
  cases x with
  | error e => cases h
  | ok b => cases h; rfl

/-- what is known of the outcome of a success -/
theorem ok_of_toOption_map {ε α β : Type} {x : Except ε α} {f : α → β} {b : β} (h : x.toOption.map f = some b) :
    ∃ a, x = .ok a ∧ f a = b := by
  cases x with
  | error e => cases h
  | ok a => exact ⟨a, rfl, Option.some.inj h⟩

/-! ## Binding -/

namespace Schema

theorem linkField_names (name : String) (relation : Nat) (fields : List Field) :
    (linkField name relation fields).map (·.name) = fields.map (·.name) := by
  unfold linkField
  rw [List.map_map]
  refine List.map_congr_left fun f _ => ?_
  simp only [Function.comp]
  split <;> rfl

theorem bindKey_names {entity : String} {fields fields' : List Field} {use : KeyUse}
    (h : bindKey entity fields use = .ok fields') : fields'.map (·.name) = fields.map (·.name) := by
  unfold bindKey at h
  split at h
  · cases h
  · split at h
    · cases h
    · cases h; exact linkField_names _ _ _

theorem bindKeys_names {entity : String} {uses : List KeyUse} {fields fields' : List Field}
    (h : uses.foldlM (bindKey entity) fields = .ok fields') : fields'.map (·.name) = fields.map (·.name) := by
  induction uses generalizing fields with
  | nil => cases h; rfl
  | cons use uses ih =>
    rw [List.foldlM_cons] at h
    obtain ⟨next, hnext, h⟩ := bind_ok h
    rw [ih h, bindKey_names hnext]

/-- an entity before and after binding: same name, same line, fields of the same names -/
def SameNames (e e' : Entity) : Prop :=
  e'.name = e.name ∧ e'.line = e.line ∧ e'.fields.map (·.name) = e.fields.map (·.name)

theorem sameNames_map {entities entities' : List Entity} (h : List.Forall₂ SameNames entities entities') :
    entities'.map (·.name) = entities.map (·.name) := by
  induction h with
  | nil => rfl
  | cons he _ ih => rw [List.map_cons, List.map_cons, he.1, ih]

theorem bindEntity_names {relations : List Relation} {e e' : Entity} (h : bindEntity relations e = .ok e') :
    SameNames e e' := by
  obtain ⟨fields, hfields, h⟩ := bind_ok h
  cases h
  exact ⟨rfl, rfl, bindKeys_names hfields⟩

theorem firstRepeated_eq_none {names seen : List String} (h : firstRepeated seen names = none) :
    names.Nodup ∧ ∀ name ∈ names, name ∉ seen := by
  induction names generalizing seen with
  | nil => simp
  | cons name names ih =>
    unfold firstRepeated at h
    split at h
    · cases h
    · next hname =>
      obtain ⟨h1, h2⟩ := ih h
      rw [List.contains_iff_mem] at hname
      refine ⟨List.nodup_cons.2 ⟨fun hm => h2 name hm List.mem_cons_self, h1⟩, fun other hother => ?_⟩
      rcases List.mem_cons.1 hother with rfl | hother
      · exact hname
      · exact fun hs => h2 other hother (List.mem_cons_of_mem _ hs)

/-- binding keeps the entities, their names and the names of their fields; the names of the entities differ -/
theorem bindKeys_entities {s s' : Schema} (h : s.bindKeys = .ok s') :
    List.Forall₂ SameNames s.entities s'.entities ∧ (s.entities.map (·.name)).Nodup := by
  unfold bindKeys at h
  split at h
  · cases h
  · next hrepeated =>
    obtain ⟨entities, hentities, h⟩ := bind_ok h
    cases h
    exact ⟨(mapM_ok hentities).imp fun _ _ he => bindEntity_names he, (firstRepeated_eq_none hrepeated).1⟩

end Schema

/-! ## Loading -/

namespace Document

open Line

theorem load_ok {strict : Bool} {source : String} {o : Outcome} (h : load strict source = .ok o) :
    ∃ before, read strict source = .ok before ∧ before.schema.bindKeys = .ok o.schema ∧
      o.problems = before.problems := by
  obtain ⟨before, hbefore, h⟩ := bind_ok h
  obtain ⟨schema, hschema, h⟩ := bind_ok h
  cases h
  exact ⟨before, mapError_ok hbefore, mapError_ok hschema, rfl⟩

theorem load_fieldNames {strict : Bool} {source : String} {o : Outcome} (h : load strict source = .ok o) :
    ∀ e ∈ o.schema.entities, ∀ f ∈ e.fields, isIdentifier f.name.toList = true := by
  obtain ⟨before, hread, hbind, -⟩ := load_ok h
  intro e he f hf
  obtain ⟨e', he', -, -, hnames⟩ := forall₂_left (Schema.bindKeys_entities hbind).1.flip he
  have hmem : f.name ∈ e'.fields.map (·.name) := hnames ▸ List.mem_map_of_mem hf
  obtain ⟨f', hf', hname⟩ := List.mem_map.1 hmem
  obtain ⟨line, -, l, hl, hfl, -⟩ := forall₂_left ((read_schemaInv hread).written e' he') hf'
  rw [← hname, hfl]
  exact readField_name hl

theorem load_entityNames {strict : Bool} {source : String} {o : Outcome} (h : load strict source = .ok o) :
    (o.schema.entities.map (·.name)).Nodup := by
  obtain ⟨before, -, hbind, -⟩ := load_ok h
  obtain ⟨hsame, hnodup⟩ := Schema.bindKeys_entities hbind
  rw [Schema.sameNames_map hsame]
  exact hnodup

end Document

end EntityScaffold

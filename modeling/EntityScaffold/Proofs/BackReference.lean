import EntityScaffold.Proofs.Planning
import EntityScaffold.Schema.Pairing

/-!
The two sides of a relation. In a schema where no entity has two relation fields that could stand on the same side of
a relation (`Schema.IsPaired`) the search for the field on the other side has no choice, so that field leads back:
the back reference of a back reference is the field itself, and the multiplicity seen from there is the converse
(`backReference?_paired`).
-/

namespace EntityScaffold

/-! ## Multiplicities -/

/-- the multiplicity seen from the other side -/
def Multiplicity.converse : Multiplicity → Multiplicity
  | .oneToOne => .oneToOne
  | .oneToMany => .manyToOne
  | .manyToOne => .oneToMany
  | .manyToMany => .manyToMany

theorem Multiplicity.converse_ofSides (isList backIsList : Bool) :
    (Multiplicity.ofSides isList backIsList).converse = .ofSides backIsList isList := by
  cases isList <;> cases backIsList <;> rfl

namespace Schema

variable {s : Schema} {owner target : Entity} {f g : Field}

/-! ## Fields on one side of a relation -/

/-- the relation fields of an entity that lead to a target by relations of one name, or without name -/
def sidesTo (s : Schema) (owner : Entity) (target : String) (name : Option String) : List Field :=
  owner.relationFields.filter fun f => f.baseType = target && s.relationName? f = name

theorem mem_sidesTo {target : String} {name : Option String} :
    f ∈ s.sidesTo owner target name ↔ f ∈ owner.relationFields ∧ f.baseType = target ∧ s.relationName? f = name := by
  simp [sidesTo, List.mem_filter]

/-- an entity has one field at most on its side of a relation, or two if the relation leads to the entity itself -/
def IsPaired (s : Schema) : Prop := ∀ a ∈ s.entities, ∀ b ∈ s.entities, ∀ name,
  (s.sidesTo a b.name name).length ≤ if a.name = b.name then 2 else 1

/-- only names that some field's relation has are to be looked at -/
theorem isPaired_iff : s.IsPaired ↔ ∀ a ∈ s.entities, ∀ b ∈ s.entities, ∀ f ∈ a.relationFields,
    (s.sidesTo a b.name (s.relationName? f)).length ≤ if a.name = b.name then 2 else 1 := by
  refine ⟨fun h a ha b hb f _ => h a ha b hb _, fun h a ha b hb name => ?_⟩
  cases hsides : s.sidesTo a b.name name with
  | nil => exact Nat.zero_le _
  | cons f rest =>
    obtain ⟨hf, -, hname⟩ := mem_sidesTo.1 (hsides ▸ List.mem_cons_self : f ∈ s.sidesTo a b.name name)
    rw [← hsides, ← hname]
    exact h a ha b hb f hf

instance (s : Schema) : Decidable s.IsPaired := decidable_of_iff _ isPaired_iff.symm

/-! ## The answer to a field -/

/-- the field is another one than a field of an owner; fields go by their names -/
def IsOther (owner target : Entity) (f g : Field) : Prop := target.name = owner.name → g.name ≠ f.name

theorem answers_iff (hg : g ∈ target.relationFields) : s.answers owner target f g = true ↔
    g ∈ s.sidesTo target owner.name (s.relationName? f) ∧ IsOther owner target f g := by
  rw [mem_sidesTo]
  simp only [answers, Bool.and_eq_true, decide_eq_true_eq, Bool.not_eq_true', Bool.and_eq_false_iff,
    decide_eq_false_iff_not, hg, true_and, IsOther]
  tauto

theorem backReference?_eq_some (h : s.backReference? owner f = some g) : ∃ target, s.entity? f.baseType = some target ∧
    g ∈ s.sidesTo target owner.name (s.relationName? f) ∧ IsOther owner target f g := by
  obtain ⟨target, htarget, hfind⟩ := Option.bind_eq_some_iff.1 h
  have hg := List.mem_of_find?_eq_some hfind
  exact ⟨target, htarget, (answers_iff hg).1 (List.find?_some hfind)⟩

/-- no field of the target answers a field without back reference -/
theorem backReference?_eq_none (h : s.backReference? owner f = none) (htarget : s.entity? f.baseType = some target)
    (hg : g ∈ s.sidesTo target owner.name (s.relationName? f)) : ¬IsOther owner target f g := by
  intro hother
  have hmem := (mem_sidesTo.1 hg).1
  rw [backReference?, htarget, Option.bind_some, List.find?_eq_none] at h
  exact h g hmem ((answers_iff hmem).2 ⟨hg, hother⟩)

/-- two members of a list with one place are the same -/
theorem eq_of_length_le_one {α : Type} {l : List α} (h : l.length ≤ 1) {a b : α} (ha : a ∈ l) (hb : b ∈ l) : a = b := by
  match l, h with
  | [x], _ => rw [List.mem_singleton.1 ha, List.mem_singleton.1 hb]

/-- a list with two places has no third member -/
theorem eq_of_length_le_two {α : Type} {l : List α} (h : l.length ≤ 2) {a b c : α} (ha : a ∈ l) (hb : b ∈ l)
    (hc : c ∈ l) (hab : a ≠ b) (hcb : c ≠ b) : c = a := by
  match l, h with
  | [x], _ => rw [List.mem_singleton.1 ha, List.mem_singleton.1 hc]
  | [x, y], _ =>
    simp only [List.mem_cons, List.not_mem_nil, or_false] at ha hb hc
    grind

/-- in a paired schema a side has one field that is another one than a given field of the other side -/
theorem IsPaired.unique (h : s.IsPaired) (hnames : (s.entities.map (·.name)).Nodup) (ho : owner ∈ s.entities)
    (ht : target ∈ s.entities) {name : Option String} (hg : g ∈ s.sidesTo target owner.name name) {f' : Field}
    (hf : f ∈ s.sidesTo owner target.name name) (hother : IsOther target owner g f)
    (hf' : f' ∈ s.sidesTo owner target.name name) (hother' : IsOther target owner g f') : f' = f := by
  have hlength := h owner ho target ht name
  by_cases hself : owner.name = target.name
  · -- both sides are fields of one entity, and `g` takes the second place
    obtain rfl := List.inj_on_of_nodup_map hnames ho ht hself
    rw [if_pos rfl] at hlength
    refine eq_of_length_le_two hlength hf hg hf' ?_ ?_
    · exact fun heq => hother rfl (congrArg Field.name heq)
    · exact fun heq => hother' rfl (congrArg Field.name heq)
  · rw [if_neg hself] at hlength
    exact eq_of_length_le_one hlength hf' hf

/-- entities of different names are found under them -/
theorem entity?_of_mem (h : (s.entities.map (·.name)).Nodup) (ho : owner ∈ s.entities) :
    s.entity? owner.name = some owner := by
  cases hfound : s.entity? owner.name with
  | none =>
    rw [entity?, List.find?_eq_none] at hfound
    exact absurd (by simp) (hfound owner ho)
  | some e => rw [List.inj_on_of_nodup_map h (entity?_mem hfound) ho (entity?_name hfound)]

/-- binding leaves the entities with names that differ -/
theorem bindKeys_nodup {unbound : Schema} (h : unbound.bindKeys = .ok s) : (s.entities.map (·.name)).Nodup := by
  obtain ⟨hsame, hnodup⟩ := bindKeys_entities h
  rwa [sameNames_map hsame]

/-- **The field on the other side leads back.** In a bound schema that is paired, the back reference of a back
reference is the field itself, and the multiplicities of the two are converse to each other; a field has no back
reference only if no other field of its target leads to its entity by a relation of the same name. -/
theorem backReference?_paired {unbound : Schema} (hbound : unbound.bindKeys = .ok s) (hpaired : s.IsPaired)
    (ho : owner ∈ s.entities) (hf : f ∈ owner.relationFields) :
    (∀ g, s.backReference? owner f = some g → ∃ target m, s.entity? f.baseType = some target ∧
      g ∈ target.relationFields ∧ s.backReference? target g = some f ∧ s.multiplicity? owner f = some m ∧
      s.multiplicity? target g = some m.converse) ∧
    (s.backReference? owner f = none → ∀ target, s.entity? f.baseType = some target → ∀ g ∈ target.relationFields,
      g.baseType = owner.name → s.relationName? g = s.relationName? f →
        target = owner ∧ g.name = f.name ∧ ((owner.fields.map (·.name)).Nodup → g = f)) := by
  have hnames := bindKeys_nodup hbound
  have hrelation : ∀ {e : Entity} {x : Field}, x ∈ e.relationFields → x.isRelation = true :=
    fun hx => (List.mem_filter.1 hx).2
  constructor
  · intro g hg
    obtain ⟨target, htarget, hside, hother⟩ := backReference?_eq_some hg
    obtain ⟨hmem, hbase, hname⟩ := mem_sidesTo.1 hside
    have ht := entity?_mem htarget
    have hback : s.backReference? target g = some f := by
      have hfound : s.entity? g.baseType = some owner := hbase ▸ entity?_of_mem hnames ho
      have hfside : f ∈ s.sidesTo owner target.name (s.relationName? g) :=
        mem_sidesTo.2 ⟨hf, (entity?_name htarget).symm, hname.symm⟩
      have hfother : IsOther target owner g f := fun hentity hfield => hother hentity.symm hfield.symm
      cases hagain : s.backReference? target g with
      | none => exact absurd hfother (backReference?_eq_none hagain hfound hfside)
      | some f' =>
        obtain ⟨owner', howner', hside', hother'⟩ := backReference?_eq_some hagain
        obtain rfl : owner = owner' := Option.some.inj (hfound.symm.trans howner')
        rw [hpaired.unique hnames ho ht (hname ▸ hside) hfside hfother hside' hother']
    refine ⟨target, .ofSides f.isList g.isList, htarget, hmem, hback, ?_, ?_⟩
    · rw [multiplicity?, if_pos (hrelation hf), hg]
      rfl
    · rw [multiplicity?, if_pos (hrelation hmem), hback, Multiplicity.converse_ofSides]
      rfl
  · intro hnone target htarget g hg hbase hname
    have hside : g ∈ s.sidesTo target owner.name (s.relationName? f) := mem_sidesTo.2 ⟨hg, hbase, hname⟩
    have hnot := backReference?_eq_none hnone htarget hside
    simp only [IsOther, not_forall, not_not] at hnot
    obtain ⟨hentity, hfield⟩ := hnot
    obtain rfl := List.inj_on_of_nodup_map hnames (entity?_mem htarget) ho hentity
    refine ⟨rfl, hfield, fun hfields => ?_⟩
    exact List.inj_on_of_nodup_map hfields (List.mem_filter.1 hg).1 (List.mem_filter.1 hf).1 hfield

def linkedField (name rawType : String) (link : Link) : Field :=
  ⟨name, rawType, false, false, false, false, none, none, link⟩

def staffSchema : Schema where
  entities := [
    ⟨"User", 1, [linkedField "posts" "Post[]" .implicit, linkedField "boss" "User?" (.bound 0),
      linkedField "bossId" "Int?" (.bound 0), linkedField "reports" "User[]" (.bound 1)]⟩,
    ⟨"Post", 7, [linkedField "author" "User" .implicit]⟩]
  relations := [⟨some "Chain", "User", "boss", ["bossId"], ["id"], ⟨none, none⟩, false, false⟩,
    ⟨some "Chain", "User", "reports", [], [], ⟨none, none⟩, true, true⟩]
  enums := []

/-- the boss of many leads back from the reports, and these from the boss -/
theorem backReference?_paired_staff : staffSchema.bindKeys = .ok staffSchema ∧ staffSchema.IsPaired ∧
    ∃ user boss reports, user ∈ staffSchema.entities ∧ boss ∈ user.relationFields ∧ boss.name = "boss" ∧
      reports.name = "reports" ∧ staffSchema.backReference? user boss = some reports ∧
      staffSchema.backReference? user reports = some boss ∧
      staffSchema.multiplicity? user boss = some .manyToOne ∧
      staffSchema.multiplicity? user reports = some .oneToMany := by
  have hbound : staffSchema.bindKeys = .ok staffSchema := by decide +kernel
  have hpaired : staffSchema.IsPaired := by decide +kernel
  have huser : staffSchema.entities[0] ∈ staffSchema.entities := List.getElem_mem _
  have hboss : linkedField "boss" "User?" (.bound 0) ∈ staffSchema.entities[0].relationFields := by decide +kernel
  have hfound : staffSchema.backReference? staffSchema.entities[0] (linkedField "boss" "User?" (.bound 0)) =
      some (linkedField "reports" "User[]" (.bound 1)) := by decide +kernel
  obtain ⟨target, m, htarget, -, hback, hm, hconverse⟩ := (backReference?_paired hbound hpaired huser hboss).1 _ hfound
  have hentity : staffSchema.entity? (linkedField "boss" "User?" (.bound 0)).baseType =
      some staffSchema.entities[0] := by
    decide +kernel
  have hkind : staffSchema.multiplicity? staffSchema.entities[0] (linkedField "boss" "User?" (.bound 0)) =
      some .manyToOne := by decide +kernel
  obtain rfl := Option.some.inj (htarget.symm.trans hentity)
  obtain rfl := Option.some.inj (hm.symm.trans hkind)
  exact ⟨hbound, hpaired, _, _, _, huser, hboss, rfl, rfl, hfound, hback, hm, hconverse⟩

end Schema

end EntityScaffold

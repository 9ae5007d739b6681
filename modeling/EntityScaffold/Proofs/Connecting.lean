import EntityScaffold.Proofs.Imports

/-!
Payloads in connected form. The connections of an entity are its list relations to entities (`IsConnection`), no two of
them for one field. Each is applied to the payload as the one before left it, and takes up a member of its own: an array
becomes records with the key of the related entity, and what is no array stays (`foldl_connect`). So the order of the
connections does not matter, and a second time changes nothing (`connectPayload_connected`).
-/

namespace EntityScaffold

/-! ## Members -/

namespace Json

theorem lookup?_of_mem {members : List (String × Json)} (h : (members.map Prod.fst).Nodup) {m : String × Json}
    (hm : m ∈ members) : lookup? m.1 members = some m.2 := by
  unfold lookup?
  cases hfound : members.find? (·.1 = m.1) with
  | none =>
    rw [List.find?_eq_none] at hfound
    exact absurd (by simp) (hfound m hm)
  | some other =>
    have hkey : other.1 = m.1 := by simpa using List.find?_some hfound
    rw [List.inj_on_of_nodup_map h (List.mem_of_find?_eq_some hfound) hm hkey]
    rfl

end Json

namespace Artifact

/-! ## Connected form -/

/-- what a member becomes: an array under the field of a connection becomes a record for each of its identifiers, in
their order, and any other value stays -/
inductive Connected (connections : List Connection) (key : String) : Json → Json → Prop
  | connected {c : Connection} {ids : List Json} (hc : c ∈ connections) (hkey : c.field = key) :
      Connected connections key (.array ids)
        (.object [("connect", .array (ids.map fun id => .object [(c.targetKey, id)]))])
  | kept {value : Json} (h : ∀ c ∈ connections, c.field = key → ∀ ids, value ≠ .array ids) :
      Connected connections key value value

/-- a member keeps its key -/
def ConnectedMember (connections : List Connection) (m m' : String × Json) : Prop :=
  m'.1 = m.1 ∧ Connected connections m.1 m.2 m'.2

/-- an object keeps its members in their order; what is no object stays -/
inductive ConnectedPayload (connections : List Connection) : Json → Json → Prop
  | object {members members' : List (String × Json)} (h : List.Forall₂ (ConnectedMember connections) members members') :
      ConnectedPayload connections (.object members) (.object members')
  | other {value : Json} (h : ∀ members, value ≠ .object members) : ConnectedPayload connections value value

/-- no two members of an object share a key -/
def HasDistinctKeys : Json → Prop
  | .object members => (members.map Prod.fst).Nodup
  | _ => True

/-- the connection of a list relation to an entity -/
def IsConnection (s : Schema) (e : Entity) (c : Connection) : Prop :=
  ∃ f ∈ e.relationFields, f.isList = true ∧ ∃ related, s.entity? f.baseType = some related ∧
    c = ⟨f.name, related.name, targetKey related⟩

section Steps

variable {connections : List Connection} {key : String} {value value' value'' : Json}

/-- under different fields there is one connected form -/
theorem Connected.unique (hfields : (connections.map (·.field)).Nodup) (h : Connected connections key value value')
    (h' : Connected connections key value value'') : value' = value'' := by
  cases h with
  | connected hc hkey =>
    cases h' with
    | connected hc' hkey' => rw [List.inj_on_of_nodup_map hfields hc hc' (hkey.trans hkey'.symm)]
    | kept h => exact absurd rfl (h _ hc hkey _)
  | kept h =>
    cases h' with
    | connected hc' hkey' => exact absurd rfl (h _ hc' hkey' _)
    | kept => rfl

theorem Connected.again (h : Connected connections key value value') : Connected connections key value' value' := by
  cases h with
  | connected => exact .kept fun _ _ _ _ => nofun
  | kept h => exact .kept h

theorem Connected.perm {connections' : List Connection} (hperm : connections.Perm connections')
    (h : Connected connections key value value') : Connected connections' key value value' := by
  cases h with
  | connected hc hkey => exact .connected (hperm.mem_iff.1 hc) hkey
  | kept h => exact .kept fun c hc => h c (hperm.mem_iff.2 hc)

/-- the value of a member after one connection -/
def Connection.applied (c : Connection) : Json → Json
  | .array ids => connectByKey c.targetKey ids
  | value => value

theorem Connection.connect_eq (c : Connection) {members : List (String × Json)} (h : (members.map Prod.fst).Nodup) :
    c.connect members = members.map fun m => (m.1, if m.1 = c.field then c.applied m.2 else m.2) := by
  have hfound : ∀ m ∈ members, m.1 = c.field → Json.lookup? c.field members = some m.2 := fun m hm hkey =>
    hkey ▸ Json.lookup?_of_mem h hm
  unfold Connection.connect
  split
  · next ids hids =>
    refine List.map_congr_left fun m hm => ?_
    by_cases hkey : m.1 = c.field
    · have hvalue := hfound m hm hkey
      rw [hids] at hvalue
      simp [hkey, ← Option.some.inj hvalue, Connection.applied]
    · simp [hkey]
  · next hids =>
    have hsame : ∀ m ∈ members, (m.1, if m.1 = c.field then c.applied m.2 else m.2) = m := by
      intro m hm
      by_cases hkey : m.1 = c.field
      · have hvalue := hfound m hm hkey
        have happlied : c.applied m.2 = m.2 := by
          unfold Connection.applied
          split
          · next ids hm2 => exact absurd (hvalue.trans (congrArg some hm2)) (hids ids)
          · rfl
        rw [if_pos hkey, happlied]
      · rw [if_neg hkey]
    exact ((List.map_congr_left hsame).trans (List.map_id _)).symm

theorem Connected.cons {c : Connection}
    (h : Connected connections key (if key = c.field then c.applied value else value) value') :
    Connected (c :: connections) key value value' := by
  by_cases hkey : key = c.field
  · rw [if_pos hkey] at h
    cases value with
    | array ids =>
      cases h with
      | kept => exact .connected List.mem_cons_self hkey.symm
    | _ =>
      cases h with
      | kept => exact .kept fun _ _ _ _ => nofun
  · rw [if_neg hkey] at h
    cases h with
    | connected hc hfield => exact .connected (List.mem_cons_of_mem c hc) hfield
    | kept h =>
      refine .kept (List.forall_mem_cons.2 ⟨fun hfield => absurd hfield.symm hkey, h⟩)

/-- **Connections one after the other** bring every member into connected form and change no key. -/
theorem foldl_connect (connections : List Connection) {members : List (String × Json)}
    (h : (members.map Prod.fst).Nodup) :
    List.Forall₂ (ConnectedMember connections) members (connections.foldl Connection.connect members) := by
  induction connections generalizing members with
  | nil => exact List.forall₂_same.2 fun m _ => ⟨rfl, .kept (by simp)⟩
  | cons c connections ih =>
    have hkeys : ((c.connect members).map Prod.fst) = members.map Prod.fst := by
      rw [c.connect_eq h, List.map_map]
      rfl
    have hrest := ih (hkeys ▸ h)
    rw [c.connect_eq h, List.forall₂_map_left_iff] at hrest
    rw [List.foldl_cons, c.connect_eq h]
    exact hrest.imp fun m m' hm => ⟨hm.1, hm.2.cons⟩

end Steps

section Payloads

variable {connections : List Connection} {payload payload' payload'' : Json}

/-- under different fields a payload has one connected form -/
theorem ConnectedPayload.unique (hfields : (connections.map (·.field)).Nodup)
    (h : ConnectedPayload connections payload payload') (h' : ConnectedPayload connections payload payload'') :
    payload' = payload'' := by
  have hmember : Relator.RightUnique (ConnectedMember connections) := fun m _ _ hm hm' =>
    Prod.ext (hm.1.trans hm'.1.symm) (hm.2.unique hfields hm'.2)
  cases h with
  | object h =>
    cases h' with
    | object h' => exact congrArg Json.object (List.right_unique_forall₂' hmember h h')
    | other h' => exact absurd rfl (h' _)
  | other h =>
    cases h' with
    | object => exact absurd rfl (h _)
    | other => rfl

theorem ConnectedPayload.again (h : ConnectedPayload connections payload payload') :
    ConnectedPayload connections payload' payload' := by
  cases h with
  | object h =>
    refine .object ?_
    induction h with
    | nil => exact .nil
    | cons hm _ ih => exact .cons ⟨rfl, hm.1 ▸ hm.2.again⟩ ih
  | other h => exact .other h

theorem ConnectedPayload.perm {connections' : List Connection} (hperm : connections.Perm connections')
    (h : ConnectedPayload connections payload payload') : ConnectedPayload connections' payload payload' := by
  cases h with
  | object h => exact .object (h.imp fun _ _ hm => ⟨hm.1, hm.2.perm hperm⟩)
  | other h => exact .other h

theorem ConnectedPayload.distinctKeys (h : ConnectedPayload connections payload payload')
    (hkeys : HasDistinctKeys payload) : HasDistinctKeys payload' := by
  cases h with
  | @object members members' h =>
    have hsame : members'.map Prod.fst = members.map Prod.fst := by
      clear hkeys
      induction h with
      | nil => rfl
      | cons hm _ ih => rw [List.map_cons, List.map_cons, hm.1, ih]
    rw [HasDistinctKeys, hsame]
    exact hkeys
  | other => exact hkeys

/-- **A payload is brought into connected form.** -/
theorem ServiceModel.connectPayload_form (m : ServiceModel) (h : HasDistinctKeys payload) :
    ConnectedPayload m.connections payload (m.connectPayload payload) := by
  cases payload with
  | object members => exact .object (foldl_connect m.connections h)
  | _ => exact .other fun _ => nofun

end Payloads

/-! ## Connections of an entity -/

section Models

variable {s : Schema} {e : Entity} {m : ServiceModel}

theorem connectionOf_eq_some {f : Field} {c : Connection} : connectionOf s f = some c ↔
    f.isList = true ∧ ∃ related, s.entity? f.baseType = some related ∧
      c = ⟨f.name, related.name, targetKey related⟩ := by
  simp only [connectionOf, Option.bind_eq_some_iff, Option.ite_none_right_eq_some, Option.some.injEq]
  constructor
  · rintro ⟨related, hrelated, hlist, rfl⟩
    exact ⟨hlist, related, hrelated, rfl⟩
  · rintro ⟨hlist, related, hrelated, rfl⟩
    exact ⟨related, hrelated, hlist, rfl⟩

theorem mem_connections (h : service s e = .ok m) {c : Connection} : c ∈ m.connections ↔ IsConnection s e c := by
  rw [service_eq] at h
  obtain ⟨-, rfl⟩ := unlessProblem_eq_ok h
  exact List.mem_filterMap.trans (exists_congr fun f => and_congr_right fun _ => connectionOf_eq_some)

/-- fields of different names have connections of different fields -/
theorem connections_nodup (hnames : (e.fields.map (·.name)).Nodup) (h : service s e = .ok m) :
    (m.connections.map (·.field)).Nodup := by
  rw [service_eq] at h
  obtain ⟨-, rfl⟩ := unlessProblem_eq_ok h
  have hrelations : (e.relationFields.map (·.name)).Nodup := hnames.sublist (List.filter_sublist.map _)
  have hsublist : ∀ fields : List Field,
      ((fields.filterMap (connectionOf s)).map (·.field)).Sublist (fields.map (·.name)) := by
    intro fields
    induction fields with
    | nil => exact List.Sublist.slnil
    | cons f fields ih =>
      cases hc : connectionOf s f with
      | none => simpa [List.filterMap_cons, hc] using ih.cons f.name
      | some c =>
        obtain ⟨-, related, -, rfl⟩ := connectionOf_eq_some.1 hc
        simpa [List.filterMap_cons, hc] using ih
  exact hrelations.sublist (hsublist e.relationFields)

end Models

/-- **Payloads in connected form.** For every entity of a loaded document: its connections are those of its list
relations to entities, no two for one field. A payload that is no object stays; in an object every member keeps its key
and its place, an array under the field of a connection becomes the records to connect to, in the order of the
identifiers and with the key of the related entity, and every other value stays. The order of the connections does not
matter, and a payload in connected form is not changed again. -/
theorem connectPayload_connected (strict : Bool) (source : String) (o : Document.Outcome)
    (h : Document.load strict source = .ok o) (e : Entity) (he : e ∈ o.schema.entities) (m : ServiceModel)
    (hm : service o.schema e = .ok m) :
    (∀ c, c ∈ m.connections ↔ IsConnection o.schema e c) ∧ (m.connections.map (·.field)).Nodup ∧
    ∀ payload, HasDistinctKeys payload →
      ConnectedPayload m.connections payload (m.connectPayload payload) ∧
      (∀ payload', ConnectedPayload m.connections payload payload' → payload' = m.connectPayload payload) ∧
      (∀ connections, m.connections.Perm connections →
        { m with connections }.connectPayload payload = m.connectPayload payload) ∧
      m.connectPayload (m.connectPayload payload) = m.connectPayload payload := by
  have hfields := connections_nodup (Document.load_fields_nodup h he) hm
  refine ⟨fun c => mem_connections hm, hfields, fun payload hkeys => ?_⟩
  have hform := m.connectPayload_form hkeys
  refine ⟨hform, fun payload' h' => h'.unique hfields hform, fun connections hperm => ?_, ?_⟩
  · have hother : ConnectedPayload connections payload ({ m with connections }.connectPayload payload) :=
      { m with connections }.connectPayload_form hkeys
    exact (hother.perm hperm.symm).unique hfields hform
  · exact (m.connectPayload_form (hform.distinctKeys hkeys)).unique hfields hform.again

def playerPayload : Json :=
  .object [("former", .array [.number (.integer 7), .null]), ("medals", .array []), ("name", .array [.string "Ann"]),
    ("team", .array [.number (.integer 7)])]

/-- of the members of a payload the arrays of list relations are connected, in any order and once only -/
theorem connectPayload_connected_player : ∃ o m, Document.load true playerSource = .ok o ∧
    service o.schema playerEntity = .ok m ∧ m.connections.map (·.field) = ["rivals", "former", "medals"] ∧
    HasDistinctKeys playerPayload ∧ ConnectedPayload m.connections playerPayload (m.connectPayload playerPayload) ∧
    m.connectPayload playerPayload = .object [
      ("former", .object [("connect",
        .array [.object [("id", .number (.integer 7))], .object [("id", .null)]])]),
      ("medals", .object [("connect", .array [])]), ("name", .array [.string "Ann"]),
      ("team", .array [.number (.integer 7)])] ∧
    { m with connections := m.connections.reverse }.connectPayload playerPayload = m.connectPayload playerPayload ∧
    m.connectPayload (m.connectPayload playerPayload) = m.connectPayload playerPayload := by
  have hload : (Document.load true playerSource).toOption.map (·.schema) = some playerSchema := by decide +kernel
  have hm : (service playerSchema playerEntity).toOption.map (·.connections) =
      some [⟨"rivals", "Player", "id"⟩, ⟨"former", "Team", "id"⟩, ⟨"medals", "Medal", "id"⟩] := by decide +kernel
  obtain ⟨o, hload, hschema⟩ := ok_of_toOption_map hload
  obtain ⟨m, hm, hconnections⟩ := ok_of_toOption_map hm
  rw [← hschema] at hm
  have he : playerEntity ∈ o.schema.entities := hschema ▸ List.mem_cons_self
  have hkeys : HasDistinctKeys playerPayload := by
    unfold playerPayload HasDistinctKeys
    decide
  obtain ⟨-, -, hpayload⟩ := connectPayload_connected true playerSource o hload playerEntity he m hm
  obtain ⟨hform, -, horder, hagain⟩ := hpayload playerPayload hkeys
  have hshown : m.connectPayload playerPayload = _ := congrArg Json.object (congrArg (List.foldl _ _) hconnections)
  exact ⟨o, m, hload, hm, by rw [hconnections]; rfl, hkeys, hform, hshown, horder _ m.connections.reverse_perm.symm,
    hagain⟩

end Artifact

end EntityScaffold

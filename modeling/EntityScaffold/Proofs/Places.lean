import EntityScaffold.Proofs.Emission
import EntityScaffold.Proofs.Loading

/-!
Entities looked up by place. A schema keeps the place of each entity under its name (`entityAt?`), and an order keeps
the dependencies of each entity under its name and takes the entities out of a list by their places (`orderAt`). Each
look-up has an outcome where names differ: the index points at entities of the schema (`entityAt?_eq`), and every entity
that remains has its dependencies in the table and a place in the list (`orderAt_eq`).
-/

namespace EntityScaffold

/-! ## Entities of a schema -/

/-- the place of the last entity of a name, the first place being `i` -/
def placeOf? (name : String) : Nat → List Entity → Option Nat
  | _, [] => none
  | i, e :: rest => (placeOf? name (i + 1) rest).or (if e.name = name then some i else none)

/-- the entity of a name at the place that is kept for it; no outcome when no entity has that place -/
def Schema.entityAt? (s : Schema) (name : String) : Option (Option Entity) :=
  match placeOf? name 0 s.entities with
  | none => some none
  | some i => s.entities[i]?.map some

theorem placeOf?_eq_none {name : String} {i : Nat} {entities : List Entity} (h : placeOf? name i entities = none) :
    ∀ e ∈ entities, e.name ≠ name := by
  induction entities generalizing i with
  | nil => simp
  | cons e rest ih =>
    rw [placeOf?, Option.or_eq_none_iff] at h
    intro x hx
    rcases List.mem_cons.1 hx with rfl | hx
    · simpa using h.2
    · exact ih h.1 x hx

theorem placeOf?_eq_some {name : String} {i j : Nat} {entities : List Entity} (h : placeOf? name i entities = some j) :
    ∃ before e after, entities = before ++ e :: after ∧ e.name = name ∧ j = i + before.length := by
  induction entities generalizing i with
  | nil => cases h
  | cons e rest ih =>
    rw [placeOf?] at h
    cases hrest : placeOf? name (i + 1) rest with
    | none =>
      rw [hrest, Option.none_or] at h
      split at h
      · next hname =>
        cases h
        exact ⟨[], e, rest, rfl, hname, rfl⟩
      · cases h
    | some k =>
      rw [hrest, Option.some_or] at h
      cases h
      obtain ⟨before, x, after, rfl, hname, rfl⟩ := ih hrest
      exact ⟨e :: before, x, after, rfl, hname, by rw [List.length_cons]; omega⟩

/-- **The index of a schema** points at its entities, and at the one that has the name. -/
theorem entityAt?_eq {s : Schema} (h : (s.entities.map (·.name)).Nodup) (name : String) :
    s.entityAt? name = some (s.entity? name) := by
  unfold Schema.entityAt?
  cases hplace : placeOf? name 0 s.entities with
  | none =>
    have hnone : s.entity? name = none := by
      refine List.find?_eq_none.2 fun e he => ?_
      simpa using placeOf?_eq_none hplace e he
    rw [hnone]
  | some j =>
    obtain ⟨before, e, after, hsplit, hname, rfl⟩ := placeOf?_eq_some hplace
    rw [hsplit, List.map_append, List.nodup_append] at h
    have hbefore : ∀ x ∈ before, x.name ≠ name := by
      intro x hx
      rw [← hname]
      exact h.2.2 _ (List.mem_map_of_mem hx) _ (List.mem_map_of_mem List.mem_cons_self)
    have hfound : s.entity? name = some e := by
      refine List.find?_eq_some_iff_append.2 ⟨by simpa using hname, before, after, hsplit, fun x hx => ?_⟩
      simpa using hbefore x hx
    simp [hfound, hsplit]

namespace Emission

/-! ## Dependencies -/

/-- the dependencies kept under a name: those of the last entity of that name -/
def dependenciesAt (all : List Entity) (name : String) : Option (List String) :=
  (all.reverse.find? (·.name = name)).map (dependencies all)

/-- what an entity waits for, its dependencies looked up under its name -/
def waitingOnAt (all : List Entity) (done : List String) (e : Entity) : Option (List String) :=
  (dependenciesAt all e.name).map (·.filter (!done.contains ·))

/-- the place of the first entity that waits for none -/
def readyPlace (all : List Entity) (done : List String) : List Entity → Option (Option Nat)
  | [] => some none
  | e :: rest => do
    let waiting ← waitingOnAt all done e
    if waiting.isEmpty then some (some 0) else (readyPlace all done rest).map (·.map (· + 1))

/-! ## Topological order -/

/-- the next entity, taken out at its place -/
def chooseAt (all : List Entity) (done : List String) (remaining : List Entity) : Option Choice := do
  match ← readyPlace all done remaining with
  | some i =>
    let e ← remaining[i]?
    some ⟨e, none, remaining.eraseIdx i⟩
  | none =>
    let i := (remaining.findIdx? (isLeast remaining)).getD 0
    let e ← remaining[i]?
    let waiting ← waitingOnAt all done e
    some ⟨e, some ⟨e.name, waiting⟩, remaining.eraseIdx i⟩

/-- at most `n` of the remaining entities, each taken out at its place -/
def emitAt (all : List Entity) : Nat → List String → List Entity → Option Emission
  | 0, _, _ => some ⟨[], []⟩
  | n + 1, done, remaining =>
    if remaining = [] then some ⟨[], []⟩
    else do
      let choice ← chooseAt all done remaining
      let later ← emitAt all n (choice.entity.name :: done) choice.remaining
      some ⟨choice.entity :: later.entities, choice.cycleBreak.toList ++ later.cycleBreaks⟩

def orderAt (strategy : Strategy) (entities : List Entity) : Option Emission :=
  match strategy with
  | .fanOut => some (byFanOut entities)
  | .topological => emitAt entities entities.length [] entities

section Distinct

variable {all : List Entity} (h : (all.map (·.name)).Nodup)

include h

theorem find?_reverse_name {e : Entity} (he : e ∈ all) : all.reverse.find? (·.name = e.name) = some e := by
  cases hfound : all.reverse.find? (·.name = e.name) with
  | none =>
    have hnot := List.find?_eq_none.1 hfound e (List.mem_reverse.2 he)
    simp at hnot
  | some x =>
    have hname : x.name = e.name := by simpa using List.find?_some hfound
    have hx : x ∈ all := List.mem_reverse.1 (List.mem_of_find?_eq_some hfound)
    rw [List.inj_on_of_nodup_map h hx he hname]

/-- every entity has its dependencies in the table -/
theorem waitingOnAt_eq {e : Entity} (he : e ∈ all) (done : List String) :
    waitingOnAt all done e = some (waitingOn all done e) := by
  unfold waitingOnAt dependenciesAt waitingOn
  rw [find?_reverse_name h he]
  rfl

theorem readyPlace_eq {remaining : List Entity} (hall : ∀ e ∈ remaining, e ∈ all) (done : List String) :
    readyPlace all done remaining = some (remaining.findIdx? fun e => (waitingOn all done e).isEmpty) := by
  induction remaining with
  | nil => rfl
  | cons e rest ih =>
    have hrest := ih fun x hx => hall x (List.mem_cons_of_mem _ hx)
    rw [readyPlace, waitingOnAt_eq h (hall e List.mem_cons_self), hrest, List.findIdx?_cons]
    simp only [Option.bind_eq_bind, Option.bind_some, Option.map_some]
    split <;> rfl

end Distinct

theorem extractFirst_eq (p : Entity → Bool) (entities : List Entity) : extractFirst p entities =
    (entities.findIdx? p).bind fun i => entities[i]?.map fun e => (e, entities.eraseIdx i) := by
  induction entities with
  | nil => rfl
  | cons e rest ih =>
    rw [extractFirst, List.findIdx?_cons]
    split
    · rfl
    · rw [ih]
      cases rest.findIdx? p with
      | none => rfl
      | some i => cases hi : rest[i]? <;> simp [hi]

theorem chooseAt_eq {all remaining : List Entity} (h : (all.map (·.name)).Nodup) (hall : ∀ e ∈ remaining, e ∈ all)
    (hne : remaining ≠ []) (done : List String) :
    ∃ choice, chooseAt all done remaining = some choice ∧ choose? all done remaining = some choice := by
  unfold chooseAt choose?
  rw [readyPlace_eq h hall, extractFirst_eq]
  simp only [Option.bind_eq_bind, Option.bind_some]
  cases hready : remaining.findIdx? fun e => (waitingOn all done e).isEmpty with
  | some i =>
    have hi : i < remaining.length := (List.findIdx?_eq_some_iff_getElem.1 hready).1
    simp [List.getElem?_eq_getElem hi]
  | none =>
    -- all wait for others, so the first with the fewest list relations is taken out
    have hleast : (remaining.findIdx? (isLeast remaining)).isSome = true := by
      obtain ⟨e, he, hmin⟩ := exists_isLeast hne
      rw [List.findIdx?_isSome, List.any_eq_true]
      exact ⟨e, he, hmin⟩
    obtain ⟨i, hplace⟩ := Option.isSome_iff_exists.1 hleast
    have hi : i < remaining.length := (List.findIdx?_eq_some_iff_getElem.1 hplace).1
    have hwaiting := waitingOnAt_eq h (hall _ (List.getElem_mem hi)) done
    simp [extractFirst_eq, hplace, List.getElem?_eq_getElem hi, hwaiting]

theorem emitAt_eq {all remaining : List Entity} (h : (all.map (·.name)).Nodup) (hall : ∀ e ∈ remaining, e ∈ all)
    (n : Nat) (done : List String) : emitAt all n done remaining = some (emitFrom all n done remaining) := by
  induction n generalizing done remaining with
  | zero => rfl
  | succ n ih =>
    by_cases hne : remaining = []
    · subst hne
      rfl
    · obtain ⟨choice, hat, hchoice⟩ := chooseAt_eq h hall hne done
      have hsub : ∀ e ∈ choice.remaining, e ∈ all := fun e he =>
        hall e ((choose?_perm hchoice).subset (List.mem_cons_of_mem _ he))
      rw [emitAt, if_neg hne, hat]
      simp only [Option.bind_eq_bind, Option.bind_some, ih hsub, emitFrom, hchoice]

/-- **Entities are put in order** with look-ups that have an outcome. -/
theorem orderAt_eq {entities : List Entity} (h : (entities.map (·.name)).Nodup) (strategy : Strategy) :
    orderAt strategy entities = some (order strategy entities) := by
  cases strategy with
  | fanOut => rfl
  | topological => exact emitAt_eq h (fun _ he => he) _ _

end Emission

end EntityScaffold

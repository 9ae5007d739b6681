import EntityScaffold.Proofs.Emission

/-!
An order that is put in order again. Both orders are left as they are, with the same reports (`order_order`). Order by
fan-out leaves entities alone that stand by fan-out already (`byFanOut_of_sorted`). In topological order each entity
comes first among itself and those emitted after it, and is chosen from them again, for the same reason
(`choose?_again`); what it waits for hangs on the names of all entities, not on their places (`emitFrom_perm`).
-/

namespace EntityScaffold.Emission

/-! ## Topological order -/

theorem extractFirst_head {p : Entity → Bool} {e : Entity} (he : p e = true) (rest : List Entity) :
    extractFirst p (e :: rest) = some (e, rest) := by
  rw [extractFirst, if_pos he]

/-- an entity that was chosen is chosen again where it comes first and only entities follow that remained -/
theorem choose?_again {all remaining later : List Entity} {done : List String} {c : Choice}
    (h : choose? all done remaining = some c) (hlater : later ⊆ c.remaining) :
    choose? all done (c.entity :: later) = some ⟨c.entity, c.cycleBreak, later⟩ := by
  have hsub : ∀ x ∈ c.entity :: later, x ∈ remaining := fun x hx =>
    (choose?_perm h).subset (List.cons_subset_cons c.entity hlater hx)
  unfold choose? at h ⊢
  cases hready : extractFirst (fun e => (waitingOn all done e).isEmpty) remaining with
  | some found =>
    obtain ⟨e, rest⟩ := found
    rw [hready] at h
    cases h
    obtain ⟨earlier, after, -, -, he, -⟩ := extractFirst_some hready
    rw [extractFirst_head he]
  | none =>
    rw [hready] at h
    obtain ⟨⟨e, rest⟩, hleast, h⟩ := Option.map_eq_some_iff.1 h
    cases h
    obtain ⟨earlier, after, -, -, he, -⟩ := extractFirst_some hleast
    have hwait : extractFirst (fun e => (waitingOn all done e).isEmpty) (e :: later) = none :=
      extractFirst_eq_none.2 fun x hx => extractFirst_eq_none.1 hready x (hsub x hx)
    have hmin : isLeast (e :: later) e = true := isLeast_iff.2 fun x hx => isLeast_iff.1 he x (hsub x hx)
    rw [hwait]
    exact congrArg (Option.map _) (extractFirst_head hmin later)

/-- what a run emits, it emits again from the entities in that order -/
theorem emitFrom_again (all : List Entity) (n : Nat) (done : List String) (remaining : List Entity) :
    emitFrom all n done (emitFrom all n done remaining).entities = emitFrom all n done remaining := by
  induction n generalizing done remaining with
  | zero => rfl
  | succ n ih =>
    cases hc : choose? all done remaining with
    | none =>
      have hstop : emitFrom all (n + 1) done remaining = ⟨[], []⟩ := by rw [emitFrom, hc]
      rw [hstop]
      rfl
    | some c =>
      have hagain := choose?_again hc (emitFrom_subperm all n (c.entity.name :: done) c.remaining).subset
      simp only [emitFrom, hc, hagain, ih]

/-- what an entity waits for does not hang on the order of all entities -/
theorem waitingOn_perm {all all' : List Entity} (h : all.Perm all') : waitingOn all = waitingOn all' := by
  have hany : ∀ p : Entity → Bool, all.any p = all'.any p := fun p => h.any_eq
  unfold waitingOn dependencies
  simp only [hany]

theorem emitFrom_perm {all all' : List Entity} (h : all.Perm all') (n : Nat) (done : List String)
    (remaining : List Entity) : emitFrom all n done remaining = emitFrom all' n done remaining := by
  have hchoose : choose? all = choose? all' := by
    unfold choose?
    rw [waitingOn_perm h]
  induction n generalizing done remaining with
  | zero => rfl
  | succ n ih => simp only [emitFrom, hchoose, ih]

/-! ## Order by fan-out -/

theorem insertByFanOut_sorted {e : Entity} {entities : List Entity}
    (h : entities.Pairwise (·.listRelationCount ≤ ·.listRelationCount)) :
    (insertByFanOut e entities).Pairwise (·.listRelationCount ≤ ·.listRelationCount) := by
  induction entities with
  | nil => exact List.pairwise_singleton _ _
  | cons other rest ih =>
    obtain ⟨hother, hrest⟩ := List.pairwise_cons.1 h
    unfold insertByFanOut
    split_ifs with hlt
    · refine List.pairwise_cons.2 ⟨fun x hx => ?_, ih hrest⟩
      rcases List.mem_cons.1 ((insertByFanOut_perm e rest).subset hx) with rfl | hx
      · exact hlt.le
      · exact hother x hx
    · refine List.pairwise_cons.2 ⟨fun x hx => ?_, h⟩
      rcases List.mem_cons.1 hx with rfl | hx
      · exact not_lt.1 hlt
      · exact (not_lt.1 hlt).trans (hother x hx)

/-- order by fan-out puts the entities with fewer list relations first -/
theorem byFanOut_sorted (entities : List Entity) :
    (byFanOut entities).entities.Pairwise (·.listRelationCount ≤ ·.listRelationCount) := by
  unfold byFanOut
  induction entities with
  | nil => exact List.Pairwise.nil
  | cons e entities ih => exact insertByFanOut_sorted ih

/-- entities that stand by fan-out are left as they are -/
theorem byFanOut_of_sorted {entities : List Entity}
    (h : entities.Pairwise (·.listRelationCount ≤ ·.listRelationCount)) : byFanOut entities = ⟨entities, []⟩ := by
  have hfold : entities.foldr insertByFanOut [] = entities := by
    induction entities with
    | nil => rfl
    | cons e rest ih =>
      obtain ⟨he, hrest⟩ := List.pairwise_cons.1 h
      rw [List.foldr_cons, ih hrest]
      cases rest with
      | nil => rfl
      | cons other rest => rw [insertByFanOut, if_neg (not_lt.2 (he other List.mem_cons_self))]
  rw [byFanOut, hfold]

/-! ## Main result -/

/-- **An order stays as it is** when its entities are put in order again: the same entities and the same reports, in the
same order, with cycles and without. -/
theorem order_order (strategy : Strategy) (entities : List Entity) (h : (entities.map (·.name)).Nodup) :
    order strategy (order strategy entities).entities = order strategy entities := by
  cases strategy with
  | fanOut => exact byFanOut_of_sorted (byFanOut_sorted entities)
  | topological =>
    have hperm : (topological entities).entities.Perm entities := order_perm .topological h
    calc topological (topological entities).entities
        = emitFrom entities entities.length [] (topological entities).entities := by
          rw [topological, emitFrom_perm hperm, hperm.length_eq]
      _ = topological entities := emitFrom_again _ _ _ _

/-- the broken cycle of tags and posts is broken again at the same place -/
theorem order_order_tagsAndPosts :
    (order .topological tagsAndPosts).cycleBreaks = [⟨"Tag", ["Post"]⟩] ∧
    (order .topological tagsAndPosts).entities ≠ tagsAndPosts ∧
    order .topological (order .topological tagsAndPosts).entities = order .topological tagsAndPosts :=
  ⟨by decide +kernel, by decide +kernel, order_order .topological tagsAndPosts (by decide)⟩

end EntityScaffold.Emission

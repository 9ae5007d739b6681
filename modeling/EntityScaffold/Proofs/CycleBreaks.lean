import EntityScaffold.Proofs.Emission

/-!
What a reported cycle break says about cycles. An entity is reported when all that are left wait, and then a cycle can
be reached from it through entities that are left (`topological_reachesCycle`). It need not lie on the cycle: the entity
with the fewest list relations is emitted, wherever it stands (`topological_reports_reader`).
-/

namespace EntityScaffold.Emission

/-- a report was made where all entities left wait, about the entity that came next -/
theorem Emitted.broken_at {all before later : List Entity} {reports : List CycleBreak}
    (h : Emitted all before later reports) {b : CycleBreak} (hb : b ∈ reports) :
    ∃ earlier e rest, later = earlier ++ e :: rest ∧ Next all (before ++ earlier) e (some b) := by
  induction h with
  | done before => cases hb
  | @next before later e report reports hnext hlater ih =>
    rcases List.mem_append.1 hb with hb | hb
    · rw [Option.mem_toList.1 hb] at hnext
      exact ⟨[], e, later, rfl, by rwa [List.append_nil]⟩
    · obtain ⟨earlier, x, rest, rfl, hx⟩ := ih hb
      refine ⟨e :: earlier, x, rest, rfl, ?_⟩
      rwa [List.append_assoc] at hx

/-- an entity that is emitted after `before` leads to a cycle: through entities left, to one that leads back
to itself -/
def ReachesCycle (all before : List Entity) (e : Entity) : Prop :=
  ∃ c, Relation.ReflTransGen (WaitsFor all before) e c ∧ Relation.TransGen (WaitsFor all before) c c

/-- an entity that is reported leads to a cycle -/
theorem Next.reachesCycle {all before : List Entity} {e : Entity} {b : CycleBreak} (h : Next all before e (some b)) :
    b.entity = e.name ∧ ReachesCycle all before e := by
  have he := h.mem_left
  cases h with
  | broken hstuck hleast hfirst b hreport => exact ⟨hreport.entity, exists_cycle hstuck he⟩

/-- **Reports and cycles.** Each report of topological order names an entity that, when it is emitted, leads to a cycle
through entities that are not emitted yet. -/
theorem topological_reachesCycle (entities : List Entity) (h : (entities.map (·.name)).Nodup) (b : CycleBreak)
    (hb : b ∈ (topological entities).cycleBreaks) : ∃ before e after,
      (topological entities).entities = before ++ e :: after ∧ b.entity = e.name ∧ ReachesCycle entities before e := by
  have hstand : Stand entities [] [] entities := ⟨h, by simp, by simp [left]⟩
  obtain ⟨before, e, after, hsplit, hnext⟩ := (emitFrom_emitted hstand rfl).1.broken_at hb
  obtain ⟨hentity, hcycle⟩ := hnext.reachesCycle
  exact ⟨before, e, after, hsplit, hentity, hcycle⟩

def readerEntity : Entity := ⟨"Reader", 1, [listField "shelves" "Shelf"]⟩

def readersAndShelves : List Entity :=
  [readerEntity, ⟨"Shelf", 4, [listField "books" "Book"]⟩, ⟨"Book", 7, [listField "shelves" "Shelf"]⟩]

/-- the reader leads to the cycle of the two others -/
theorem topological_reachesCycle_reader : ⟨"Reader", ["Shelf"]⟩ ∈ (topological readersAndShelves).cycleBreaks ∧
    ∃ before e after, (topological readersAndShelves).entities = before ++ e :: after ∧ e.name = "Reader" ∧
      ReachesCycle readersAndShelves before e := by
  have hbreak : ⟨"Reader", ["Shelf"]⟩ ∈ (topological readersAndShelves).cycleBreaks := by decide +kernel
  obtain ⟨before, e, after, hsplit, hentity, hcycle⟩ :=
    topological_reachesCycle readersAndShelves (by decide) ⟨"Reader", ["Shelf"]⟩ hbreak
  exact ⟨hbreak, before, e, after, hsplit, hentity.symm, hcycle⟩

/-- the reader is reported as the first entity, although none waits for it, so that it never leads back to itself -/
theorem topological_reports_reader : (readersAndShelves.map (·.name)).Nodup ∧
    (topological readersAndShelves).entities.head? = some readerEntity ∧
    (topological readersAndShelves).cycleBreaks.head? = some ⟨"Reader", ["Shelf"]⟩ ∧
    ¬Relation.TransGen (WaitsFor readersAndShelves []) readerEntity readerEntity := by
  refine ⟨by decide, by decide +kernel, by decide +kernel, fun hcycle => ?_⟩
  obtain ⟨x, -, hx, -, -, -, f, hf, -, -, hbase⟩ := Relation.TransGen.tail'_iff.1 hcycle
  have hnone : ∀ x ∈ readersAndShelves, ∀ f ∈ x.fields, f.baseType ≠ readerEntity.name := by decide +kernel
  exact hnone x (mem_left.1 hx).1 f hf hbase

end EntityScaffold.Emission

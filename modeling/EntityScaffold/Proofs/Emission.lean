import EntityScaffold.Proofs.Planning
import Mathlib.Data.Fintype.Pigeonhole
import Mathlib.Data.String.Basic
import Mathlib.Order.SuccPred.Relation
import Mathlib.Tactic

/-!
Topological order. `choose?_next` says once what can be emitted next (`Next`): the first of the remaining entities that
waits for none, or, when all wait, an entity that is reported with everything it waits for. A whole run is a chain of
such choices (`Emitted`), from which the rest is derived: dependencies come first but where a report says otherwise, and
nothing is reported exactly when the dependencies have no cycle. That a cycle can be reached from each of the entities
left when all of them wait is the one graph argument (`exists_cycle`).
-/

namespace EntityScaffold.Emission

/-! ## Dependencies -/

/-- `e` depends on `d`: another of the entities, which a relation field of `e` holds in a list -/
def DependsOn (all : List Entity) (e d : Entity) : Prop :=
  d ∈ all ∧ d.name ≠ e.name ∧ ∃ f ∈ e.fields, f.isRelation = true ∧ f.isList = true ∧ f.baseType = d.name

/-- `e` waits for a dependency that is not among the entities emitted before it -/
def Waits (all before : List Entity) (e : Entity) : Prop := ∃ d, DependsOn all e d ∧ d ∉ before

theorem mem_insertName {name x : String} {names : List String} : x ∈ insertName name names ↔ x = name ∨ x ∈ names := by
  induction names with
  | nil => simp [insertName]
  | cons other rest ih =>
    unfold insertName
    split_ifs with hlt heq
    · simp
    · subst heq; simp
    · simp only [List.mem_cons, ih]
      tauto

theorem mem_sortedNames {x : String} {names : List String} : x ∈ sortedNames names ↔ x ∈ names := by
  induction names with
  | nil => simp [sortedNames]
  | cons name names ih =>
    have hfold : sortedNames (name :: names) = insertName name (sortedNames names) := rfl
    rw [hfold, mem_insertName, ih, List.mem_cons]

theorem insertName_ascending {name : String} {names : List String} (h : names.Pairwise (· < ·)) :
    (insertName name names).Pairwise (· < ·) := by
  induction names with
  | nil => simp [insertName]
  | cons other rest ih =>
    obtain ⟨hother, hrest⟩ := List.pairwise_cons.1 h
    unfold insertName
    split_ifs with hlt heq
    · refine List.pairwise_cons.2 ⟨fun x hx => ?_, h⟩
      rcases List.mem_cons.1 hx with rfl | hx
      · exact hlt
      · exact lt_trans hlt (hother x hx)
    · exact h
    · refine List.pairwise_cons.2 ⟨fun x hx => ?_, ih hrest⟩
      rcases mem_insertName.1 hx with rfl | hx
      · exact lt_of_le_of_ne (not_lt.1 hlt) (Ne.symm heq)
      · exact hother x hx

/-- names in order are ascending, so none stands twice -/
theorem sortedNames_ascending (names : List String) : (sortedNames names).Pairwise (· < ·) := by
  induction names with
  | nil => exact List.Pairwise.nil
  | cons name names ih => exact insertName_ascending ih

theorem mem_dependencies {all : List Entity} {e : Entity} {name : String} :
    name ∈ dependencies all e ↔ ∃ d, DependsOn all e d ∧ d.name = name := by
  unfold dependencies
  rw [mem_sortedNames, List.mem_filter, List.mem_map]
  simp only [Entity.relationFields, List.filter_filter, List.mem_filter, Bool.and_eq_true, decide_eq_true_eq,
    List.any_eq_true]
  constructor
  · rintro ⟨⟨f, ⟨hf, hlist, hrelation⟩, rfl⟩, hne, d, hd, hname⟩
    exact ⟨d, ⟨hd, hname ▸ hne, f, hf, hrelation, hlist, hname.symm⟩, hname⟩
  · rintro ⟨d, ⟨hd, hne, f, hf, hrelation, hlist, hbase⟩, rfl⟩
    exact ⟨⟨f, ⟨hf, hlist, hrelation⟩, hbase⟩, hne, d, hd, rfl⟩

/-! ## What is emitted next -/

/-- the entities that are left after `before`, in their order -/
def left (all before : List Entity) : List Entity := all.filter (· ∉ before)

theorem mem_left {all before : List Entity} {e : Entity} : e ∈ left all before ↔ e ∈ all ∧ e ∉ before := by
  simp [left]

/-- the report of an entity that is emitted after `before` while it waits: the names of all it waits for, in order -/
structure Reports (all before : List Entity) (e : Entity) (b : CycleBreak) : Prop where
  entity : b.entity = e.name
  nonempty : b.waitingOn ≠ []
  ascending : b.waitingOn.Pairwise (· < ·)
  names : ∀ name, name ∈ b.waitingOn ↔ ∃ d, DependsOn all e d ∧ d ∉ before ∧ d.name = name

/-- what is emitted after `before`, with its report if there is one -/
inductive Next (all before : List Entity) (e : Entity) : Option CycleBreak → Prop
  /-- the first of the entities left that waits for none -/
  | ready (hready : ¬Waits all before e)
      (hfirst : ∃ earlier later, left all before = earlier ++ e :: later ∧ ∀ x ∈ earlier, Waits all before x) :
      Next all before e none
  /-- all entities left wait, and the first with the fewest list relations is emitted with a report -/
  | broken (hstuck : ∀ x ∈ left all before, Waits all before x)
      (hleast : ∀ x ∈ left all before, e.listRelationCount ≤ x.listRelationCount)
      (hfirst : ∃ earlier later, left all before = earlier ++ e :: later ∧
        ∀ x ∈ earlier, e.listRelationCount < x.listRelationCount)
      (b : CycleBreak) (hreport : Reports all before e b) : Next all before e (some b)

theorem Next.mem_left {all before : List Entity} {e : Entity} {report : Option CycleBreak}
    (h : Next all before e report) : e ∈ left all before := by
  obtain ⟨earlier, later, hsplit, -⟩ : ∃ earlier later, left all before = earlier ++ e :: later ∧ True := by
    cases h with
    | ready hready hfirst =>
      obtain ⟨earlier, later, hsplit, -⟩ := hfirst
      exact ⟨earlier, later, hsplit, trivial⟩
    | broken hstuck hleast hfirst b hreport =>
      obtain ⟨earlier, later, hsplit, -⟩ := hfirst
      exact ⟨earlier, later, hsplit, trivial⟩
  rw [hsplit]
  exact List.mem_append_right _ List.mem_cons_self

/-- entities emitted one after the other, the first of them after `before`, with their reports -/
inductive Emitted (all : List Entity) : List Entity → List Entity → List CycleBreak → Prop
  | done (before : List Entity) : Emitted all before [] []
  | next {before later : List Entity} {e : Entity} {report : Option CycleBreak} {reports : List CycleBreak}
      (hnext : Next all before e report) (hlater : Emitted all (before ++ [e]) later reports) :
      Emitted all before (e :: later) (report.toList ++ reports)

theorem extractFirst_some {p : Entity → Bool} {entities rest : List Entity} {e : Entity}
    (h : extractFirst p entities = some (e, rest)) : ∃ earlier later, entities = earlier ++ e :: later ∧
      rest = earlier ++ later ∧ p e = true ∧ ∀ x ∈ earlier, p x = false := by
  induction entities generalizing rest with
  | nil => cases h
  | cons first entities ih =>
    unfold extractFirst at h
    split at h
    · next hp =>
      cases h
      exact ⟨[], entities, rfl, rfl, hp, by simp⟩
    · next hp =>
      obtain ⟨⟨found, others⟩, hfound, h⟩ := Option.map_eq_some_iff.1 h
      cases h
      obtain ⟨earlier, later, rfl, rfl, he, hearlier⟩ := ih hfound
      refine ⟨first :: earlier, later, rfl, rfl, he, fun x hx => ?_⟩
      rcases List.mem_cons.1 hx with rfl | hx
      · simpa using hp
      · exact hearlier x hx

theorem extractFirst_eq_none {p : Entity → Bool} {entities : List Entity} :
    extractFirst p entities = none ↔ ∀ x ∈ entities, p x = false := by
  induction entities with
  | nil => simp [extractFirst]
  | cons first entities ih =>
    unfold extractFirst
    cases hp : p first with
    | true => simp [hp]
    | false => simp [hp, ih]

theorem isLeast_iff {entities : List Entity} {e : Entity} :
    isLeast entities e = true ↔ ∀ x ∈ entities, e.listRelationCount ≤ x.listRelationCount := by
  simp [isLeast]

/-- some entity has the fewest list relations -/
theorem exists_isLeast {entities : List Entity} (h : entities ≠ []) : ∃ e ∈ entities, isLeast entities e = true := by
  obtain ⟨first, hfirst⟩ := List.exists_mem_of_ne_nil entities h
  obtain ⟨e, he, hleast⟩ :=
    Finset.exists_min_image entities.toFinset Entity.listRelationCount ⟨first, List.mem_toFinset.2 hfirst⟩
  refine ⟨e, List.mem_toFinset.1 he, isLeast_iff.2 fun x hx => hleast x (List.mem_toFinset.2 hx)⟩

/-- where a run stands: `done` has the names of those emitted, `remaining` are those left -/
structure Stand (all before : List Entity) (done : List String) (remaining : List Entity) : Prop where
  distinct : (all.map (·.name)).Nodup
  emitted : ∀ e ∈ all, e.name ∈ done ↔ e ∈ before
  remaining : remaining = left all before

section Stand

variable {all before remaining : List Entity} {done : List String}

theorem Stand.mem_waitingOn (h : Stand all before done remaining) {e : Entity} {name : String} :
    name ∈ waitingOn all done e ↔ ∃ d, DependsOn all e d ∧ d ∉ before ∧ d.name = name := by
  unfold waitingOn
  rw [List.mem_filter, mem_dependencies]
  simp only [Bool.not_eq_true', List.contains_eq_mem, decide_eq_false_iff_not]
  constructor
  · rintro ⟨⟨d, hd, rfl⟩, hdone⟩
    exact ⟨d, hd, fun hb => hdone ((h.emitted d hd.1).2 hb), rfl⟩
  · rintro ⟨d, hd, hbefore, rfl⟩
    exact ⟨⟨d, hd, rfl⟩, fun hdone => hbefore ((h.emitted d hd.1).1 hdone)⟩

theorem Stand.waits_iff (h : Stand all before done remaining) (e : Entity) :
    Waits all before e ↔ waitingOn all done e ≠ [] := by
  constructor
  · rintro ⟨d, hd, hbefore⟩
    exact List.ne_nil_of_mem (h.mem_waitingOn.2 ⟨d, hd, hbefore, rfl⟩)
  · intro hne
    obtain ⟨name, hname⟩ := List.exists_mem_of_ne_nil _ hne
    obtain ⟨d, hd, hbefore, -⟩ := h.mem_waitingOn.1 hname
    exact ⟨d, hd, hbefore⟩

theorem Stand.reports (h : Stand all before done remaining) {e : Entity} (hwaits : Waits all before e) :
    Reports all before e ⟨e.name, waitingOn all done e⟩ where
  entity := rfl
  nonempty := (h.waits_iff e).1 hwaits
  ascending := (sortedNames_ascending _).filter _
  names _ := h.mem_waitingOn

/-- the run goes on after one more entity -/
theorem Stand.step (h : Stand all before done remaining) {e : Entity} {earlier later : List Entity}
    (hsplit : remaining = earlier ++ e :: later) : Stand all (before ++ [e]) (e.name :: done) (earlier ++ later) := by
  have hleft : left all before = earlier ++ e :: later := h.remaining ▸ hsplit
  have he : e ∈ all := (mem_left.1 (hleft ▸ List.mem_append_right _ List.mem_cons_self)).1
  refine ⟨h.distinct, fun x hx => ?_, ?_⟩
  · rw [List.mem_cons, List.mem_append, List.mem_singleton, h.emitted x hx]
    constructor
    · rintro (hname | hx')
      · exact Or.inr (List.inj_on_of_nodup_map h.distinct hx he hname)
      · exact Or.inl hx'
    · rintro (hx' | rfl)
      · exact Or.inr hx'
      · exact Or.inl rfl
  · -- the entities left differ, so `e` stands there once
    have hnodup : (earlier ++ e :: later).Nodup := hleft ▸ (List.Nodup.of_map _ h.distinct).filter _
    have hapart := List.nodup_middle.1 hnodup
    have hnew : e ∉ earlier ++ later := (List.nodup_cons.1 hapart).1
    have hstep : left all (before ++ [e]) = (left all before).filter (· ≠ e) := by
      unfold left
      rw [List.filter_filter]
      apply List.filter_congr
      intro x _
      simp [and_comm]
    have hkeep : ∀ {l : List Entity}, e ∉ l → l.filter (· ≠ e) = l := by
      intro l hl
      rw [List.filter_eq_self]
      intro x hx
      simpa using fun heq : x = e => hl (heq ▸ hx)
    rw [List.mem_append, not_or] at hnew
    rw [hstep, hleft, List.filter_append, List.filter_cons_of_neg (by simp), hkeep hnew.1, hkeep hnew.2]

/-- **One choice.** As long as entities are left one of them is emitted, by the rule, and the run goes on. -/
theorem choose?_next (h : Stand all before done remaining) (hne : remaining ≠ []) :
    ∃ c, choose? all done remaining = some c ∧ Next all before c.entity c.cycleBreak ∧
      Stand all (before ++ [c.entity]) (c.entity.name :: done) c.remaining := by
  unfold choose?
  cases hready : extractFirst (fun e => (waitingOn all done e).isEmpty) remaining with
  | some found =>
    obtain ⟨e, rest⟩ := found
    obtain ⟨earlier, later, hsplit, rfl, he, hearlier⟩ := extractFirst_some hready
    refine ⟨⟨e, none, earlier ++ later⟩, rfl, .ready ?_ ⟨earlier, later, h.remaining ▸ hsplit, ?_⟩, h.step hsplit⟩
    · rw [h.waits_iff]
      simpa using he
    · intro x hx
      rw [h.waits_iff]
      simpa using hearlier x hx
  | none =>
    have hwaits : ∀ x ∈ remaining, Waits all before x := by
      intro x hx
      rw [h.waits_iff]
      simpa using extractFirst_eq_none.1 hready x hx
    cases hleast : extractFirst (isLeast remaining) remaining with
    | none =>
      obtain ⟨e, he, htrue⟩ := exists_isLeast hne
      rw [extractFirst_eq_none.1 hleast e he] at htrue
      cases htrue
    | some found =>
      obtain ⟨e, rest⟩ := found
      obtain ⟨earlier, later, hsplit, rfl, hmin, hearlier⟩ := extractFirst_some hleast
      have he : e ∈ remaining := hsplit ▸ List.mem_append_right _ List.mem_cons_self
      refine ⟨⟨e, some ⟨e.name, waitingOn all done e⟩, earlier ++ later⟩, rfl, ?_, h.step hsplit⟩
      rw [isLeast_iff] at hmin
      refine .broken (h.remaining ▸ hwaits) (h.remaining ▸ hmin) ⟨earlier, later, h.remaining ▸ hsplit, ?_⟩ _
        (h.reports (hwaits e he))
      intro x hx
      -- an earlier entity was passed over since one that is left has fewer list relations
      by_contra hle
      have hnot := hearlier x hx
      rw [isLeast_iff.2 fun y hy => (not_lt.1 hle).trans (hmin y hy)] at hnot
      cases hnot

/-- **A whole run** emits everything that is left, choice by choice. -/
theorem emitFrom_emitted {n : Nat} (h : Stand all before done remaining) (hn : remaining.length = n) :
    Emitted all before (emitFrom all n done remaining).entities (emitFrom all n done remaining).cycleBreaks ∧
      (emitFrom all n done remaining).entities.Perm remaining := by
  induction n generalizing before done remaining with
  | zero =>
    obtain rfl := List.length_eq_zero_iff.1 hn
    exact ⟨.done before, .refl _⟩
  | succ n ih =>
    have hne : remaining ≠ [] := List.ne_nil_of_length_eq_add_one hn
    obtain ⟨c, hc, hnext, hstand⟩ := choose?_next h hne
    have hperm := choose?_perm hc
    have hlength : c.remaining.length = n := by
      have hlen := hperm.length_eq
      rw [List.length_cons] at hlen
      omega
    obtain ⟨hlater, hrest⟩ := ih hstand hlength
    simp only [emitFrom, hc]
    exact ⟨.next hnext hlater, (hrest.cons c.entity).trans hperm⟩

end Stand

/-- emission puts entities of different names into an order, and leaves none out -/
theorem order_perm (strategy : Strategy) {entities : List Entity} (h : (entities.map (·.name)).Nodup) :
    (order strategy entities).entities.Perm entities := by
  cases strategy with
  | fanOut => exact byFanOut_perm entities
  | topological =>
    have hstand : Stand entities [] [] entities := ⟨h, by simp, by simp [left]⟩
    exact (emitFrom_emitted hstand rfl).2

/-! ## Along a run -/

section Run

variable {all before later : List Entity} {reports : List CycleBreak}

theorem Emitted.next_at (h : Emitted all before later reports) {earlier rest : List Entity} {e : Entity}
    (hsplit : later = earlier ++ e :: rest) :
    ∃ report, Next all (before ++ earlier) e report ∧ ∀ b ∈ report, b ∈ reports := by
  induction h generalizing earlier with
  | done before => cases earlier <;> cases hsplit
  | @next before later first report reports hnext hlater ih =>
    cases earlier with
    | nil =>
      cases hsplit
      refine ⟨report, by rwa [List.append_nil], fun b hb => List.mem_append_left _ ?_⟩
      exact Option.mem_toList.2 hb
    | cons head earlier =>
      cases hsplit
      obtain ⟨report', hnext', hreports⟩ := ih rfl
      refine ⟨report', by rwa [List.append_assoc] at hnext', fun b hb => List.mem_append_right _ (hreports b hb)⟩

/-- an entity that is not reported has its dependencies before it -/
theorem Emitted.dependencies_before (h : Emitted all before later reports) {earlier rest : List Entity} {e : Entity}
    (hsplit : later = earlier ++ e :: rest) (hsilent : ∀ b ∈ reports, b.entity ≠ e.name) {d : Entity}
    (hd : DependsOn all e d) : d ∈ before ++ earlier := by
  obtain ⟨report, hnext, hreports⟩ := h.next_at hsplit
  by_contra hbefore
  cases hnext with
  | ready hready hfirst => exact hready ⟨d, hd, hbefore⟩
  | broken hstuck hleast hfirst b hreport => exact hsilent b (hreports b rfl) hreport.entity

end Run

/-! ## Cycles -/

/-- no entity depends on itself by way of others -/
def Acyclic (all : List Entity) : Prop := ∀ e, ¬Relation.TransGen (DependsOn all) e e

/-- one of the entities left depends on another that is left -/
def WaitsFor (all before : List Entity) (e d : Entity) : Prop :=
  e ∈ left all before ∧ d ∈ left all before ∧ DependsOn all e d

/-- **Where all wait there is a cycle** among the entities left: going from any of them to one it waits for, and on from
there, leads to one that leads back to itself. -/
theorem exists_cycle {all before : List Entity} (h : ∀ x ∈ left all before, Waits all before x) {e : Entity}
    (he : e ∈ left all before) :
    ∃ c, Relation.ReflTransGen (WaitsFor all before) e c ∧ Relation.TransGen (WaitsFor all before) c c := by
  have hnext : ∀ x : {x // x ∈ left all before}, ∃ y : {x // x ∈ left all before}, WaitsFor all before x y := by
    rintro ⟨x, hx⟩
    obtain ⟨d, hd, hbefore⟩ := h x hx
    have hleft : d ∈ left all before := mem_left.2 ⟨hd.1, hbefore⟩
    exact ⟨⟨d, hleft⟩, hx, hleft, hd⟩
  choose next hnext using hnext
  -- the walk never ends, and the entities left are finitely many, so it comes back to one of them
  let walk : Nat → {x // x ∈ left all before} := fun n => next^[n] ⟨e, he⟩
  have hstep : ∀ n, WaitsFor all before (walk n) (walk (n + 1)) := by
    intro n
    have hsucc : walk (n + 1) = next (walk n) := Function.iterate_succ_apply' next n _
    rw [hsucc]
    exact hnext _
  have hwalk : ∀ {i j : Nat}, i < j → Relation.TransGen (WaitsFor all before) (walk i) (walk j) := fun hlt =>
    (transGen_of_succ_of_lt (fun m n => WaitsFor all before (walk m) (walk n)) (fun m _ => hstep m) hlt).lift
      (fun n => (walk n : Entity)) fun _ _ hmn => hmn
  obtain ⟨i, j, hne, hback⟩ := Finite.exists_ne_map_eq_of_infinite walk
  wlog hlt : i < j generalizing i j
  · exact this j i hne.symm hback.symm (lt_of_le_of_ne (not_lt.1 hlt) hne.symm)
  refine ⟨walk i, ?_, ?_⟩
  · rcases Nat.eq_zero_or_pos i with rfl | hpos
    · exact .refl
    · exact (hwalk hpos).to_reflTransGen
  · have hcycle := hwalk hlt
    rwa [← hback] at hcycle

/-- **Without a cycle some entity is ready**: of those left, one waits for none. -/
theorem exists_ready {all before : List Entity} (h : Acyclic all) {e : Entity} (he : e ∈ left all before) :
    ∃ x ∈ left all before, ¬Waits all before x := by
  by_contra hnone
  simp only [not_exists, not_and, not_not] at hnone
  obtain ⟨c, -, hcycle⟩ := exists_cycle hnone he
  exact h c (Relation.TransGen.mono (fun _ _ hstep => hstep.2.2) c c hcycle)

/-- without a cycle nothing is reported -/
theorem Emitted.silent {all before later : List Entity} {reports : List CycleBreak}
    (h : Emitted all before later reports) (hacyclic : Acyclic all) : reports = [] := by
  induction h with
  | done before => rfl
  | next hnext hlater ih =>
    obtain ⟨x, hx, hnone⟩ := exists_ready hacyclic hnext.mem_left
    cases hnext with
    | ready hready hfirst => rw [ih]; rfl
    | broken hstuck hleast hfirst b hreport => exact absurd (hstuck x hx) hnone

/-- an order with all dependencies before leaves no room for a cycle -/
theorem acyclic_of_before {all out : List Entity} (hnodup : out.Nodup) (hmem : ∀ e, e ∈ out ↔ e ∈ all)
    (h : ∀ earlier e rest, out = earlier ++ e :: rest → ∀ d, DependsOn all e d → d ∈ earlier) : Acyclic all := by
  have hstep : ∀ e d, e ∈ out → DependsOn all e d → d ∈ out ∧ out.idxOf d < out.idxOf e := by
    intro e d he hd
    obtain ⟨earlier, rest, hsplit⟩ := List.append_of_mem he
    have hearlier := h earlier e rest hsplit d hd
    have hnew : e ∉ earlier := by
      rw [hsplit, List.nodup_middle, List.nodup_cons] at hnodup
      exact fun hm => hnodup.1 (List.mem_append_left _ hm)
    refine ⟨(hmem d).2 hd.1, ?_⟩
    calc out.idxOf d = earlier.idxOf d := by rw [hsplit, List.idxOf_append_of_mem hearlier]
      _ < earlier.length := List.idxOf_lt_length_iff.2 hearlier
      _ = out.idxOf e := by rw [hsplit, List.idxOf_append_of_notMem hnew, List.idxOf_cons_self, Nat.add_zero]
  have hchain : ∀ e d, e ∈ out → Relation.TransGen (DependsOn all) e d → d ∈ out ∧ out.idxOf d < out.idxOf e := by
    intro e d he hchain
    induction hchain with
    | single hd => exact hstep _ _ he hd
    | tail _ hd ih =>
      obtain ⟨hmid, hlt⟩ := ih
      obtain ⟨hlast, hlt'⟩ := hstep _ _ hmid hd
      exact ⟨hlast, lt_trans hlt' hlt⟩
  intro e hcycle
  -- on a cycle every entity is a dependency, so it is among those emitted
  have he : e ∈ out := by
    obtain ⟨d, -, hd⟩ := Relation.TransGen.tail'_iff.1 hcycle
    exact (hmem e).2 hd.1
  exact absurd (hchain e e he hcycle).2 (lt_irrefl _)

/-! ## Main result -/

/-- an order of emission with its reports, as topological order promises it -/
structure Topological (entities : List Entity) (out : Emission) : Prop where
  perm : out.entities.Perm entities
  /-- an entity without a report has all its dependencies before it -/
  dependencies_first : ∀ before e after, out.entities = before ++ e :: after →
    (∀ b ∈ out.cycleBreaks, b.entity ≠ e.name) → ∀ d, DependsOn entities e d → d ∈ before
  /-- choice by choice: reports come in the order of emission, one for each entity that is emitted while it waits -/
  emitted : Emitted entities [] out.entities out.cycleBreaks
  /-- where some entity is ready, the first that is ready comes next -/
  ready_first : ∀ before e after, out.entities = before ++ e :: after →
    (∃ x ∈ left entities before, ¬Waits entities before x) → ¬Waits entities before e ∧
      ∃ earlier later, left entities before = earlier ++ e :: later ∧ ∀ x ∈ earlier, Waits entities before x
  /-- nothing is reported exactly when there is no cycle -/
  silent_iff : out.cycleBreaks = [] ↔ Acyclic entities

/-- **Topological order.** Entities of different names are all emitted, each after its dependencies unless it is
reported; the reports are those of the entities that had to be emitted while they waited; and there is none exactly when
the dependencies have no cycle. -/
theorem topological_topological (entities : List Entity) (h : (entities.map (·.name)).Nodup) :
    Topological entities (topological entities) := by
  have hstand : Stand entities [] [] entities := ⟨h, by simp, by simp [left]⟩
  obtain ⟨hemitted, hperm⟩ : Emitted entities [] (topological entities).entities (topological entities).cycleBreaks ∧
      (topological entities).entities.Perm entities := emitFrom_emitted hstand rfl
  refine ⟨hperm, ?_, hemitted, ?_, ?_, ?_⟩
  · intro before e after hsplit hsilent d hd
    simpa using hemitted.dependencies_before hsplit hsilent hd
  · rintro before e after hsplit ⟨x, hx, hready⟩
    obtain ⟨report, hnext, -⟩ := hemitted.next_at hsplit
    rw [List.nil_append] at hnext
    cases hnext with
    | ready hready hfirst => exact ⟨hready, hfirst⟩
    | broken hstuck hleast hfirst b hreport => exact absurd (hstuck x hx) hready
  · intro hsilent
    have hnodup : (topological entities).entities.Nodup := hperm.nodup_iff.2 (List.Nodup.of_map _ h)
    apply acyclic_of_before hnodup (fun e => hperm.mem_iff)
    intro before e after hsplit d hd
    have hnone : ∀ b ∈ (topological entities).cycleBreaks, b.entity ≠ e.name := by simp [hsilent]
    simpa using hemitted.dependencies_before hsplit hnone hd
  · exact hemitted.silent

def listField (name target : String) : Field :=
  ⟨name, target ++ "[]", false, false, false, false, none, none, .implicit⟩

def tagsAndPosts : List Entity :=
  [⟨"Tag", 1, [listField "posts" "Post"]⟩, ⟨"Post", 5, [listField "tags" "Tag", listField "extras" "Extra"]⟩,
    ⟨"Extra", 10, []⟩]

/-- the third comes first, then the cycle is broken at the entity with fewer lists -/
theorem topological_tagsAndPosts : (topological tagsAndPosts).entities.map (·.name) = ["Extra", "Tag", "Post"] ∧
    (topological tagsAndPosts).cycleBreaks = [⟨"Tag", ["Post"]⟩] ∧
    Topological tagsAndPosts (topological tagsAndPosts) :=
  ⟨by decide +kernel, by decide +kernel, topological_topological tagsAndPosts (by decide)⟩

end EntityScaffold.Emission

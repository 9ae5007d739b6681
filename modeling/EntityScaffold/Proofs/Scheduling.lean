import EntityScaffold.Plan
import Mathlib.Data.List.Perm.Basic

/-!
A schedule changes nothing. Whatever the order in which workers finish, the result at a place is that of the job at that
place (`lookup_deliver`), so the results in order are those of doing the jobs in order (`Schedule.map_eq`), and a plan
with workers is the plan (`planWith_eq`).
-/

namespace EntityScaffold

theorem lookup_filterMap_place {α β : Type} (f : α → β) (jobs : List α) (places : List Nat) (i : Nat) :
    List.lookup i (places.filterMap fun place => jobs[place]?.map fun job => (place, f job)) =
      if i ∈ places then jobs[i]?.map f else none := by
  induction places with
  | nil => rfl
  | cons place places ih =>
    cases hjob : jobs[place]? with
    | none =>
      rw [List.filterMap_cons_none (by rw [hjob]; rfl), ih]
      by_cases hi : i = place
      · subst hi
        simp [hjob]
      · simp [hi]
    | some job =>
      rw [List.filterMap_cons_some (by rw [hjob]; rfl), List.lookup_cons, ih]
      by_cases hi : i = place
      · subst hi
        simp [hjob]
      · simp [beq_eq_false_iff_ne.2 hi, hi]

theorem lookup_deliver {α β : Type} (w : Workers) (f : α → β) (jobs : List α) {i : Nat} (hi : i < jobs.length) :
    List.lookup i (w.deliver f jobs) = jobs[i]?.map f := by
  have hfinished : i ∈ w.finished jobs.length := (w.complete _).mem_iff.2 (List.mem_range.2 hi)
  rw [Workers.deliver, lookup_filterMap_place, if_pos hfinished]

theorem filterMap_range_getElem? {α : Type} (l : List α) : (List.range l.length).filterMap (l[·]?) = l := by
  induction l with
  | nil => rfl
  | cons a l ih =>
    rw [List.length_cons, List.range_succ_eq_map, List.filterMap_cons_some List.getElem?_cons_zero, List.filterMap_map]
    exact congrArg (a :: ·) ih

/-- **Workers and order.** The results of a batch are those of its jobs done one after the other. -/
theorem Schedule.map_eq {α β : Type} (schedule : Schedule) (f : α → β) (jobs : List α) :
    schedule.map f jobs = jobs.map f := by
  cases schedule with
  | sequential => rfl
  | parallel workers =>
    calc gather jobs.length (workers.deliver f jobs)
        = (List.range jobs.length).filterMap fun i => jobs[i]?.map f :=
          List.filterMap_congr fun i hi => lookup_deliver workers f jobs (List.mem_range.1 hi)
      _ = (List.range (jobs.map f).length).filterMap ((jobs.map f)[·]?) := by simp
      _ = jobs.map f := filterMap_range_getElem? _

section Plans

variable (schedule : Schedule) (o : Options) (r : Renderer) (s : Schema)

theorem planEmission_eq (unknown : List String) (emission : Emission) :
    planEmission schedule o r s unknown emission =
      emission.entities.mapM (planEntity o r s) >>= assemble o r unknown emission := by
  rw [planEmission, schedule.map_eq, List.mapM_map]
  rfl

/-- a plan does not depend on the schedule -/
theorem planWith_eq (names : List String) : planWith schedule o r s names = plan o r s names := by
  unfold plan planWith
  simp only [planEmission_eq]

end Plans

end EntityScaffold

/-!
Batches of jobs. Jobs that do not depend on one another can be given to workers that finish them in any order; the
result of each is put back into the place of its job.
-/

namespace EntityScaffold

/-- workers that share a batch of jobs -/
structure Workers where
  /-- the places of that many jobs, in the order in which they are finished -/
  finished : Nat → List Nat
  /-- every job is finished, and none twice -/
  complete : ∀ n, (finished n).Perm (List.range n)

/-- how a batch of jobs is done -/
inductive Schedule
  /-- one after the other -/
  | sequential
  | parallel (workers : Workers)

/-- the results of jobs as they come in, each with the place of its job -/
def Workers.deliver {α β : Type} (w : Workers) (f : α → β) (jobs : List α) : List (Nat × β) :=
  (w.finished jobs.length).filterMap fun place => jobs[place]?.map fun job => (place, f job)

/-- results by their places -/
def gather {β : Type} (n : Nat) (delivered : List (Nat × β)) : List β :=
  (List.range n).filterMap fun place => List.lookup place delivered

/-- the results of jobs in the order of the jobs -/
def Schedule.map {α β : Type} (schedule : Schedule) (f : α → β) (jobs : List α) : List β :=
  match schedule with
  | .sequential => jobs.map f
  | .parallel workers => gather jobs.length (workers.deliver f jobs)

end EntityScaffold

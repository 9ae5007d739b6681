import EntityScaffold.Proofs.Blocks
import EntityScaffold.Proofs.Builds
import EntityScaffold.Proofs.DocumentOffset
import EntityScaffold.Proofs.Places
import EntityScaffold.Proofs.PluralOffset

/-!
What becomes of an entity, told without building it. Its parts are built one after the other, and so are the fields of
each, until one fails: by a flaw of the entity, or for want of a plural. Which of the two comes first follows from the
names and the targets alone (`of_entityParts`). A plan fails for want of a plural exactly when one of the entities that
are emitted does (`planAt_eq`); everything else that is cut or looked up on the way from the text of a document to a
plan has an outcome (`document_outcomes`).
-/

namespace EntityScaffold

open Artifact

/-- what becomes of a build -/
inductive Fate
  | built
  | flawed
  /-- a name has no plural -/
  | stuck
deriving DecidableEq, Repr

namespace Fate

/-- what became of a build -/
def of {α : Type} : Build α → Fate
  | .ok _ => .built
  | .error (.flaw _) => .flawed
  | .error (.noPlural _) => .stuck

/-- one build after another, which is not begun when the first fails -/
def andThen : Fate → Fate → Fate
  | .built, later => later
  | failed, _ => failed

/-- the fate of a field whose target needs a spelling -/
def ofField (s : Schema) (spelled : String → Bool) (f : Field) : Fate :=
  if f.isRelation then
    match s.entity? f.baseType with
    | some related => if spelled related.name then .built else .stuck
    | none => if s.isEnum f.baseType then .built else .flawed
  else .built

def ofFields (s : Schema) (spelled : String → Bool) (fields : List Field) : Fate :=
  fields.foldr (fun f later => (ofField s spelled f).andThen later) .built

/-- the fate of parts of a kind, if it is switched on -/
def ofKind (o : Options) (kind : ArtifactKind) (fate : Fate) : Fate := if o.enabled kind then fate else .built

end Fate

/-- the fate of an entity: its own spellings, then the targets of its fields, in validators, in the service, in the
form -/
def entityFate (o : Options) (s : Schema) (e : Entity) : Fate :=
  if isSpelled e.name then
    (Fate.ofKind o .validation (.ofFields s isSpelled e.fields)).andThen
      ((if (identifier? e).isSome then Fate.ofKind o .service (.ofFields s (fun _ => true) e.fields)
        else .built).andThen
        (Fate.ofKind o .ui (.ofFields s (fun name => (resourceName? name).isSome) e.fields)))
  else .stuck

namespace Fate

/-! ## Sequences -/

section Sequences

variable {α β : Type}

@[simp] theorem andThen_built (fate : Fate) : fate.andThen .built = fate := by cases fate <;> rfl

theorem of_bind {x : Build α} {f : α → Build β} {later : Fate} (h : ∀ a, x = .ok a → of (f a) = later) :
    of (x >>= f) = (of x).andThen later := by
  match x with
  | .ok a => exact h a rfl
  | .error (.flaw _) => rfl
  | .error (.noPlural _) => rfl

theorem of_bind_ok {x : Build α} {f : α → Build β} (h : ∀ a, x = .ok a → of (f a) = .built) : of (x >>= f) = of x := by
  rw [of_bind h, andThen_built]

def ofProblems (problems : List BuildFailure) : Fate :=
  match problems with
  | [] => .built
  | .flaw _ :: _ => .flawed
  | .noPlural _ :: _ => .stuck

/-- the first problem decides -/
theorem of_unlessProblem (problems : List BuildFailure) (a : α) :
    of (unlessProblem problems a) = ofProblems problems := by
  match problems with
  | [] => rfl
  | .flaw _ :: _ => rfl
  | .noPlural _ :: _ => rfl

theorem ofProblems_append (problems later : List BuildFailure) :
    ofProblems (problems ++ later) = (ofProblems problems).andThen (ofProblems later) := by
  match problems with
  | [] => rfl
  | .flaw _ :: _ => rfl
  | .noPlural _ :: _ => rfl

theorem ofProblems_spelling (spelled : String → Bool) (name : String) :
    ofProblems (spellingProblems spelled name) = if spelled name then .built else .stuck := by
  unfold spellingProblems
  split <;> rfl

theorem ofProblems_field (s : Schema) (e : Entity) (spelled : String → Bool) (f : Field) :
    ofProblems (fieldProblems s e spelled f) = ofField s spelled f := by
  unfold fieldProblems ofField
  split
  · cases s.entity? f.baseType with
    | some related => exact ofProblems_spelling spelled related.name
    | none => dsimp only; split <;> rfl
  · rfl

theorem ofProblems_fields (s : Schema) (e : Entity) (spelled : String → Bool) (fields : List Field) :
    ofProblems (fields.flatMap (fieldProblems s e spelled)) = ofFields s spelled fields := by
  induction fields with
  | nil => rfl
  | cons f fields ih =>
    rw [List.flatMap_cons, ofProblems_append, ofProblems_field, ih]
    rfl

end Sequences

/-! ## Failures that do not come -/

section Failures

variable {failed : Fate}

theorem andThen_ne {first later : Fate} (hfirst : first ≠ failed) (hlater : later ≠ failed) :
    first.andThen later ≠ failed := by
  cases first with
  | built => exact hlater
  | flawed => exact hfirst
  | stuck => exact hfirst

variable (hbuilt : built ≠ failed)

include hbuilt

theorem ofFields_ne {s : Schema} {spelled : String → Bool} {fields : List Field}
    (h : ∀ f ∈ fields, ofField s spelled f ≠ failed) : ofFields s spelled fields ≠ failed := by
  induction fields with
  | nil => exact hbuilt
  | cons f fields ih => exact andThen_ne (h f List.mem_cons_self) (ih fun x hx => h x (List.mem_cons_of_mem _ hx))

theorem ofKind_ne {o : Options} {kind : ArtifactKind} {fate : Fate} (h : fate ≠ failed) :
    ofKind o kind fate ≠ failed := by
  unfold ofKind
  split
  · exact h
  · exact hbuilt

/-- an entity that has its spellings does not fail in a way in which none of its fields does -/
theorem entityFate_ne {o : Options} {s : Schema} {e : Entity} (he : isSpelled e.name = true)
    (h : ∀ spelled ∈ [isSpelled, fun _ => true, fun name => (resourceName? name).isSome],
      ∀ f ∈ e.fields, ofField s spelled f ≠ failed) : entityFate o s e ≠ failed := by
  have hfields := fun spelled hspelled => ofFields_ne hbuilt (h spelled hspelled)
  rw [entityFate, if_pos he]
  refine andThen_ne (ofKind_ne hbuilt (hfields _ (by simp))) (andThen_ne ?_ (ofKind_ne hbuilt (hfields _ (by simp))))
  split
  · exact ofKind_ne hbuilt (hfields _ (by simp))
  · exact hbuilt

end Failures

/-! ## Parts of an entity -/

section Parts

variable {s : Schema} {e : Entity}

theorem of_validation (he : isSpelled e.name = true) : of (validation s e) = ofFields s isSpelled e.fields := by
  rw [validation_eq, of_unlessProblem, validationProblems, spellingProblems_eq_nil.2 he, List.nil_append,
    ofProblems_fields]

theorem of_service (he : isSpelled e.name = true) (hid : (identifier? e).isSome = true) :
    of (service s e) = ofFields s (fun _ => true) e.fields := by
  rw [service_eq, of_unlessProblem, serviceProblems, spellingProblems_eq_nil.2 he, identifierFlaws, if_pos hid]
  exact ofProblems_fields s e _ e.fields

theorem of_endpoint (he : isSpelled e.name = true) (hid : (identifier? e).isSome = true) :
    of (endpoint e) = .built := by
  obtain ⟨id, hid⟩ := Option.isSome_iff_exists.1 hid
  have hrequire : requireIdentifier e = .ok id := by rw [requireIdentifier, hid]
  unfold endpoint
  rw [of_bind fun _ _ => of_bind_ok fun _ _ => rfl, namesOf_eq, spellingProblems_eq_nil.2 he, hrequire]
  rfl

theorem of_form (he : isSpelled e.name = true) :
    of (form s e) = ofFields s (fun name => (resourceName? name).isSome) e.fields := by
  rw [form_eq, of_unlessProblem, formProblems, spellingProblems_eq_nil.2 he, List.append_nil]
  exact ofProblems_fields s e _ e.fields

theorem of_partsOf {o : Options} {kind : ArtifactKind} {parts : Build (List Part)} :
    of (partsOf o kind parts) = ofKind o kind (of parts) := by
  unfold partsOf ofKind
  split <;> rfl

theorem of_identifiedParts {o : Options} (he : isSpelled e.name = true) {id : Identifier}
    (hid : identifier? e = some id) (names : Names) :
    of (identifiedParts o s e names id) = ofKind o .service (ofFields s (fun _ => true) e.fields) := by
  have hsome : (identifier? e).isSome = true := by rw [hid]; rfl
  have hservice : of (service s e >>= fun m =>
      (.ok [⟨.service, "services/" ++ names.fileStem, .service m⟩] : Build (List Part))) =
        ofFields s (fun _ => true) e.fields := by
    rw [of_bind_ok fun _ _ => rfl, of_service he hsome]
  have hendpoint : of (endpoint e >>= fun m => (.ok [
      ⟨.endpointCollection, "api/" ++ names.resource ++ "/index", .endpoint m⟩,
      ⟨.endpointItem, "api/" ++ names.resource ++ "/[" ++ id.field ++ "]", .endpoint m⟩] : Build (List Part))) =
        .built := by
    rw [of_bind_ok fun _ _ => rfl, of_endpoint he hsome]
  unfold identifiedParts
  refine (of_bind fun _ _ => of_bind_ok fun _ _ => rfl).trans ?_
  rw [of_partsOf, of_partsOf, hservice, hendpoint]
  simp [ofKind]

/-- **What becomes of an entity** follows from the names and the targets. -/
theorem of_entityParts (o : Options) (s : Schema) (e : Entity) : of (entityParts o s e) = entityFate o s e := by
  unfold entityFate
  by_cases he : isSpelled e.name = true
  · rw [if_pos he]
    obtain ⟨names, hnames⟩ := Option.isSome_iff_exists.1 he
    have hspelled : namesOf e.name = .ok names := by rw [namesOf, hnames]
    have hvalidation : of (validation s e >>= fun m =>
        (.ok [⟨.validation, "validation/" ++ names.fileStem, .validation m⟩] : Build (List Part))) =
          ofFields s isSpelled e.fields := by
      rw [of_bind_ok fun _ _ => rfl, of_validation he]
    have hform : of (form s e >>= fun m =>
        (.ok [⟨.uiFields, "ui/" ++ names.fileStem, .form m⟩] : Build (List Part))) =
          ofFields s (fun name => (resourceName? name).isSome) e.fields := by
      rw [of_bind_ok fun _ _ => rfl, of_form he]
    have hbegin : ∀ build : Names → Build (List Part), (Except.ok names >>= build) = build names := fun _ => rfl
    unfold entityParts
    rw [hspelled, hbegin]
    cases hid : identifier? e with
    | none =>
      dsimp only
      refine (of_bind fun _ _ => of_bind fun _ _ => of_bind_ok fun _ _ => rfl).trans ?_
      rw [of_partsOf, of_partsOf, hvalidation, hform]
      rfl
    | some id =>
      dsimp only
      refine (of_bind fun _ _ => of_bind fun _ _ => of_bind_ok fun _ _ => rfl).trans ?_
      rw [of_partsOf, of_partsOf, hvalidation, hform, of_identifiedParts he hid]
      rfl
  · rw [if_neg he]
    have hnone : namesOf e.name = .error (.noPlural e.name) := by
      unfold isSpelled at he
      unfold namesOf
      rw [Option.not_isSome_iff_eq_none.1 he]
    unfold entityParts
    rw [hnone]
    rfl

end Parts

end Fate

end EntityScaffold

import EntityScaffold.Proofs.Builds
import EntityScaffold.Proofs.Spelling

/-!
References from one entity to another. The artifacts of an entity name the validator, the file and the resource of the
targets of its relation fields; the targets derive these names by another route, with the first letter in upper case.
The file is the same by both routes; the validator is exactly if the first letter comes back from upper case
(`idValidatorName_eq_iff`); the resource is if upper case keeps the letter in every respect that a plural looks at
(`KeepsLetter`, `resourceName?_eq`).
-/

namespace EntityScaffold.Text

/-! ## The first letter -/

/-- upper case keeps the letter: it is one letter, of the same lower case, of as many bytes, and as good as the other to
a sigma that comes after it -/
structure KeepsLetter (c u : Char) : Prop where
  upper : toUpper c = [u]
  lower : toLower u = toLower c
  bytes : u.utf8Size = c.utf8Size
  cased : reachesCased [u] = reachesCased [c]

theorem keepsLetter_ascii {c : Char} (h : isAscii c = true) : ∃ u, KeepsLetter c u := by
  have hletter := of_ascii (p := fun c => toUpper c = [c.toUpper] ∧ toLower c.toUpper = toLower c ∧
    c.toUpper.utf8Size = c.utf8Size ∧ reachesCased [c.toUpper] = reachesCased [c]) (by decide +kernel) h
  obtain ⟨hupper, hlower, hbytes, hcased⟩ := hletter
  exact ⟨c.toUpper, hupper, hlower, hbytes, hcased⟩

theorem toUpper_ne_nil (c : Char) : toUpper c ≠ [] := by
  unfold toUpper
  split
  · simp
  · cases hx : expandCase toUpperExpansions c with
    | none => simp
    | some chars => exact expandCase_ne_nil (by decide) hx

theorem lowerFirst_upperFirst_cons (c : Char) (rest : List Char) :
    lowerFirst (upperFirst (c :: rest)) = lowerFirst (toUpper c) ++ rest := by
  obtain ⟨u, us, hu⟩ := List.exists_cons_of_ne_nil (toUpper_ne_nil c)
  rw [upperFirst, hu]
  simp [lowerFirst]

/-! ## Lower case after another letter -/

theorem lowerAfter_congr {before before' : List Char}
    (h : ∀ passed, reachesCased (passed ++ before) = reachesCased (passed ++ before')) (text : List Char) :
    lowerAfter before text = lowerAfter before' text := by
  induction text generalizing before before' with
  | nil => rfl
  | cons c text ih =>
    have hhere : reachesCased before = reachesCased before' := h []
    have hrest : lowerAfter (c :: before) text = lowerAfter (c :: before') text := by
      refine ih fun passed => ?_
      simpa using h (passed ++ [c])
    rw [lowerAfter, lowerAfter, hhere, hrest]

theorem reachesCased_append (passed before : List Char) :
    reachesCased (passed ++ before) =
      if passed.all isCaseIgnorable = true then reachesCased before else reachesCased passed := by
  induction passed with
  | nil => rfl
  | cons c passed ih =>
    unfold reachesCased at ih ⊢
    cases hc : isCaseIgnorable c with
    | true => simpa [hc] using ih
    | false => simp [hc]

theorem lowerText_cons (c : Char) (text : List Char) : lowerText (c :: text) = toLower c ++ lowerAfter [c] text := by
  unfold lowerText
  rw [lowerAfter]
  split
  · next hc =>
    subst hc
    rfl
  · rfl

theorem KeepsLetter.lowerText_eq {c u : Char} (h : KeepsLetter c u) (text : List Char) :
    lowerText (u :: text) = lowerText (c :: text) := by
  have hafter : lowerAfter [u] text = lowerAfter [c] text := by
    refine lowerAfter_congr (fun passed => ?_) text
    rw [reachesCased_append, reachesCased_append, h.cased]
  rw [lowerText_cons, lowerText_cons, h.lower, hafter]

/-! ## Plurals after another letter -/

/-- two texts that differ in their first letter at most -/
inductive Kept (c u : Char) : List Char → List Char → Prop
  | same (text : List Char) : Kept c u text text
  | first (text : List Char) : Kept c u (c :: text) (u :: text)

theorem lowerText_matchCase {replacement : List Char}
    (hlower : lowerText (upperFirst replacement) = lowerText replacement) (word : List Char) :
    lowerText (matchCase word replacement) = lowerText replacement := by
  unfold matchCase
  split
  · split
    · exact hlower
    · rfl
  · rfl

theorem map_eq_of_rel {α β : Type} {q : α → α → Prop} {f : α → β} (hf : ∀ a b, q a b → f b = f a) {x y : Option α}
    (h : Option.Rel q x y) : y.map f = x.map f := by
  cases h with
  | none => rfl
  | some hab => exact congrArg some (hf _ _ hab)

section Plurals

variable {c u : Char} (h : KeepsLetter c u)

theorem Kept.append {a b : List Char} (hkept : Kept c u a b) (ending : List Char) :
    Kept c u (a ++ ending) (b ++ ending) := by
  cases hkept with
  | same text => exact .same _
  | first text => exact .first _

include h

theorem KeepsLetter.lowerText_kept {a b : List Char} (hkept : Kept c u a b) : lowerText b = lowerText a := by
  cases hkept with
  | same text => rfl
  | first text => exact h.lowerText_eq text

/-- as many bytes are taken, since the letters have as many -/
theorem KeepsLetter.takeBytes_kept (n : Nat) (rest : List Char) :
    Option.Rel (Kept c u) (takeBytes n (c :: rest)) (takeBytes n (u :: rest)) := by
  cases n with
  | zero => exact .some (.same [])
  | succ n =>
    rw [takeBytes, takeBytes, h.bytes]
    split
    · cases takeBytes (n + 1 - c.utf8Size) rest with
      | none => exact .none
      | some taken => exact .some (.first taken)
    · exact .none

theorem KeepsLetter.stemBefore_kept (rest lower : List Char) (ending : String) (added : List Char) :
    Option.Rel (Kept c u) ((stemBefore (c :: rest) lower ending).map (· ++ added))
      ((stemBefore (u :: rest) lower ending).map (· ++ added)) := by
  unfold stemBefore
  have hstem := h.takeBytes_kept (byteCount (lower.take (lower.length - ending.length))) rest
  revert hstem
  generalize takeBytes _ (c :: rest) = x
  generalize takeBytes _ (u :: rest) = y
  intro hstem
  cases hstem with
  | none => exact .none
  | some hkept => exact .some (hkept.append added)

theorem KeepsLetter.pluralByEnding_kept (rest lower : List Char) :
    Option.Rel (Kept c u) (pluralByEnding (c :: rest) lower) (pluralByEnding (u :: rest) lower) := by
  unfold pluralByEnding
  split
  · exact .some (.first rest)
  split
  · exact h.stemBefore_kept rest lower "is" _
  split
  · exact .some (.first _)
  split
  · exact h.stemBefore_kept rest lower "y" _
  · exact .some (.first _)

theorem KeepsLetter.pluralWord_eq (rest : List Char) :
    (pluralWord (u :: rest)).map lowerText = (pluralWord (c :: rest)).map lowerText := by
  have hlower := h.lowerText_eq rest
  have hcons : ∀ x : Char, decide (x :: rest = []) = false := by simp
  have hirregular : irregularPlurals.all fun entry =>
      lowerText (upperFirst entry.2.toList) = lowerText entry.2.toList := by
    decide +kernel
  unfold pluralWord
  simp only [hlower, hcons, Bool.false_or]
  split
  · exact congrArg some hlower
  split
  · exact congrArg some hlower
  · next replacement hreplacement =>
    obtain ⟨entry, hentry, -, rfl⟩ := irregular?_singular hreplacement
    have hentry := of_decide_eq_true (List.all_eq_true.1 hirregular entry hentry)
    exact congrArg some ((lowerText_matchCase hentry _).trans (lowerText_matchCase hentry _).symm)
  · exact map_eq_of_rel (fun _ _ hkept => h.lowerText_kept hkept) (h.pluralByEnding_kept rest _)

/-- **Plurals in lower case** do not depend on the case of the first letter, if upper case keeps it. -/
theorem KeepsLetter.plural_eq (rest : List Char) :
    (plural (u :: rest)).map lowerText = (plural (c :: rest)).map lowerText := by
  cases hsplit : splitLastUpper rest with
  | none =>
    simp only [plural, splitLastWord, hsplit, List.nil_append, Option.map_id']
    exact h.pluralWord_eq rest
  | some split =>
    obtain ⟨head, word⟩ := split
    simp only [plural, splitLastWord, hsplit, Option.map_map]
    exact Option.map_congr fun w _ => h.lowerText_eq (head ++ w)

end Plurals

end EntityScaffold.Text

namespace EntityScaffold

open Artifact

/-! ## Names by two routes -/

/-- the first letter of a name comes back from upper case -/
def SteadyInitial (name : String) : Prop :=
  ∀ c ∈ name.toList.head?, Text.lowerFirst (Text.toUpper c) = Text.toLower c

/-- upper case keeps the first letter of a name -/
def PlainInitial (name : String) : Prop := ∀ c ∈ name.toList.head?, ∃ u, Text.KeepsLetter c u

theorem PlainInitial.steady {name : String} (h : PlainInitial name) : SteadyInitial name := by
  intro c hc
  obtain ⟨u, hu⟩ := h c hc
  rw [hu.upper, ← hu.lower]
  exact List.append_nil _

theorem plainInitial_ascii {name : String} (h : name.toList.head?.all Text.isAscii = true) : PlainInitial name := by
  intro c hc
  rw [Option.mem_def.1 hc] at h
  exact Text.keepsLetter_ascii h

/-- the identifier validator has one name by both routes exactly if the first letter comes back from upper case -/
theorem idValidatorName_eq_iff {declared : String} {n : Names} (h : Names.of? declared = some n) :
    idValidatorName declared = n.idValidator ↔ SteadyInitial declared := by
  obtain ⟨t, -, rfl⟩ := Option.map_eq_some_iff.1 h
  unfold Names.idValidator idValidatorName SteadyInitial
  rw [← String.toList_inj, String.toList_append, String.toList_append, List.append_left_inj]
  unfold lowerFirst
  rw [String.toList_ofList, String.toList_ofList, String.toList_ofList]
  cases declared.toList with
  | nil => simp [Text.upperFirst]
  | cons c rest =>
    rw [Text.lowerFirst_upperFirst_cons, Text.lowerFirst, List.append_left_inj]
    simp [eq_comm]

/-- the resource is one by both routes if upper case keeps the first letter -/
theorem resourceName?_eq {declared : String} (h : PlainInitial declared) :
    resourceName? declared = (Names.of? declared).map (·.resource) := by
  unfold resourceName? Names.of?
  rw [Option.map_map]
  unfold PlainInitial at h
  cases hd : declared.toList with
  | nil => rfl
  | cons c rest =>
    rw [hd] at h
    obtain ⟨u, hu⟩ := h c rfl
    have hplural := congrArg (Option.map String.ofList) (hu.plural_eq rest)
    rw [Option.map_map, Option.map_map] at hplural
    rw [Text.upperFirst, hu.upper]
    exact hplural.symm

/-! ## Validators -/

/-- an import names the identifier validator and the file of its entity -/
structure WellNamed (i : Import) : Prop where
  idValidator : i.idValidator = idValidatorName i.entity
  fileStem : ∃ n, Names.of? i.entity = some n ∧ i.fileStem = n.fileStem

/-- the validator of a field refers to the target of the field -/
structure Validates (s : Schema) (e : Entity) (f : Field) (v : ValidatorField) (imports : List Import) : Prop where
  name : v.name = f.name
  relation : ∀ related, f.isRelation = true → s.entity? f.baseType = some related →
    v.validator = .relation related.name (idValidatorName related.name) f.isList
  imported : ∀ related, f.isRelation = true → s.entity? f.baseType = some related → related.name ≠ e.name →
    ∃ i ∈ imports, i.entity = related.name

/-- **Validators of an entity**, field by field, and its imports -/
theorem validation_ok {s : Schema} {e : Entity} {m : ValidationModel} (h : validation s e = .ok m) :
    Names.of? e.name = some m.names ∧ List.Forall₂ (fun f v => Validates s e f v m.imports) e.fields m.body ∧
      ∀ i ∈ m.imports, WellNamed i := by
  rw [validation_eq] at h
  obtain ⟨hproblems, rfl⟩ := unlessProblem_eq_ok h
  obtain ⟨hname, hfields⟩ := List.append_eq_nil_iff.1 hproblems
  refine ⟨spellings_of_isSpelled (spellingProblems_eq_nil.1 hname), ?_, fun i hi => ⟨?_, ?_⟩⟩
  · rw [validators, List.forall₂_map_right_iff, List.forall₂_same]
    intro f hf
    refine ⟨rfl, fun related hrelation hrelated => ?_, fun related hrelation hrelated hne => ?_⟩
    · simp only [bodyField, validatorOf, isRelation_iff.1 hrelation, hrelated]
    · have htarget := target_imported hf (relatedEntity?_eq_some.2 ⟨hrelation, hrelated⟩)
      exact List.mem_map.1 (htarget.resolve_left hne)
  · rw [(validators_imports s e).named i hi, importOf_entity]
    rfl
  · obtain ⟨n, hn⟩ := Option.isSome_iff_exists.1 (imports_spelled (List.flatMap_eq_nil_iff.1 hfields) hi)
    refine ⟨n, hn, ?_⟩
    rw [(validators_imports s e).named i hi, importOf, hn, Option.getD_some]

/-! ## Forms -/

theorem formField_ok {s : Schema} {e related : Entity} {f : Field} {shown : FormField} (h : formField s e f = .ok shown)
    (hf : f.isRelation = true) (hrelated : s.entity? f.baseType = some related) :
    shown.source = f.name ∧ ∃ resource, shown.resource = some resource ∧
      resourceName? related.name = some resource.name := by
  rw [formField_eq] at h
  obtain ⟨hproblems, rfl⟩ := unlessProblem_eq_ok h
  rw [fieldProblems, if_pos hf, hrelated] at hproblems
  obtain ⟨resource, hresource⟩ := Option.isSome_iff_exists.1 (spellingProblems_eq_nil.1 hproblems)
  refine ⟨rfl, ⟨resource, optionText related⟩, ?_, hresource⟩
  simp only [shownField, displayOf, isRelation_iff.1 hf, hrelated, hresource, Option.getD_some]

theorem form_ok {s : Schema} {e : Entity} {g : FormModel} (h : form s e = .ok g) :
    List.Forall₂ (fun f shown => formField s e f = .ok shown) e.fields g.fields := by
  obtain ⟨fields, hfields, h⟩ := bind_ok h
  obtain ⟨n, -, h⟩ := bind_ok h
  cases h
  exact mapM_ok hfields

/-! ## Main result -/

theorem forall₂_getElem? {α β : Type} {q : α → β → Prop} {l : List α} {l' : List β} (h : List.Forall₂ q l l') {i : Nat}
    {a : α} (ha : l[i]? = some a) : ∃ b, l'[i]? = some b ∧ q a b := by
  induction h generalizing i with
  | nil => cases ha
  | @cons a' b l l' hab _ ih =>
    cases i with
    | zero => cases ha; exact ⟨b, rfl, hab⟩
    | succ i => exact ih ha

theorem validationPart_stem {o : Options} {s : Schema} {e : Entity} {n : Names} {parts : List Part}
    (hn : Names.of? e.name = some n) (ho : o.enabled .validation = true) (h : entityParts o s e = .ok parts) :
    ∃ p ∈ parts, p.template = .validation ∧ p.stem = "validation/" ++ n.fileStem := by
  obtain ⟨n', hn', h⟩ := bind_ok h
  rw [namesOf_ok hn'] at hn
  cases hn
  obtain ⟨validation, hvalidation, h⟩ := bind_ok h
  have hparts : ∃ more, parts = validation ++ more := by
    cases hid : identifier? e with
    | none =>
      rw [hid] at h
      obtain ⟨identified, -, h⟩ := bind_ok h
      obtain ⟨forms, -, h⟩ := bind_ok h
      cases h
      exact ⟨_, List.append_assoc _ _ _⟩
    | some id =>
      rw [hid] at h
      obtain ⟨identified, -, h⟩ := bind_ok h
      obtain ⟨forms, -, h⟩ := bind_ok h
      cases h
      exact ⟨_, List.append_assoc _ _ _⟩
  obtain ⟨more, rfl⟩ := hparts
  rw [partsOf, if_pos ho] at hvalidation
  obtain ⟨m, -, hvalidation⟩ := bind_ok hvalidation
  cases hvalidation
  exact ⟨_, List.mem_append_left _ List.mem_cons_self, rfl, rfl⟩

theorem endpoint_path {e : Entity} {n : Names} {ep : EndpointModel} (hn : Names.of? e.name = some n)
    (h : endpoint e = .ok ep) : ep.collection.path = "/api/" ++ n.resource := by
  obtain ⟨n', hn', h⟩ := bind_ok h
  rw [namesOf_ok hn'] at hn
  cases hn
  obtain ⟨id, -, h⟩ := bind_ok h
  cases h
  rfl

/-- what an entity's validators and form say about the target of a relation field, against what the target says -/
structure RefersTo (s : Schema) (e related : Entity) (f : Field) (own : Names) (m : ValidationModel)
    (v : ValidatorField) (shown : FormField) : Prop where
  /-- the field is validated by an identifier validator, which the target has exactly if its first letter is steady -/
  validator : ∃ idValidator, v.name = f.name ∧ v.validator = .relation related.name idValidator f.isList ∧
    (idValidator = own.idValidator ↔ SteadyInitial related.name)
  imported : related.name ≠ e.name → ∃ i ∈ m.imports, i.entity = related.name
  /-- so is the validator that is imported -/
  importedValidator : ∀ i ∈ m.imports, i.entity = related.name →
    (i.idValidator = own.idValidator ↔ SteadyInitial related.name)
  /-- and it is imported from the file of the target's validators, whatever its name -/
  importedFile : ∀ i ∈ m.imports, i.entity = related.name → i.fileStem = own.fileStem ∧
    ∀ o parts, o.enabled .validation = true → entityParts o s related = .ok parts →
      ∃ p ∈ parts, p.template = .validation ∧ p.stem = "validation/" ++ i.fileStem
  /-- the choices come from the resource of the target, if its first letter is plain -/
  resource : ∃ resource, shown.source = f.name ∧ shown.resource = some resource ∧ (PlainInitial related.name →
    resource.name = own.resource ∧ ∀ ep, endpoint related = .ok ep → ep.collection.path = "/api/" ++ resource.name)

/-- **References.** For every relation field of an entity, and every schema in which the validators and the form of the
entity and the validators of the target are built: the file from which the target's identifier validator is imported is
that of the target's validators; the validator is one that the target has exactly if the first letter of the target's
name comes back from upper case; and the resource is the target's if upper case keeps that letter. -/
theorem relation_refersTo (s : Schema) (e related : Entity) (i : Nat) (f : Field) (m own : ValidationModel)
    (g : FormModel)
    (hi : e.fields[i]? = some f) (hf : f.isRelation = true) (hrelated : s.entity? f.baseType = some related)
    (hm : validation s e = .ok m) (hg : form s e = .ok g) (hown : validation s related = .ok own) :
    ∃ v shown, m.body[i]? = some v ∧ g.fields[i]? = some shown ∧ RefersTo s e related f own.names m v shown := by
  obtain ⟨-, hbody, himports⟩ := validation_ok hm
  obtain ⟨hnames, -, -⟩ := validation_ok hown
  obtain ⟨v, hv, hvalidates⟩ := forall₂_getElem? hbody hi
  obtain ⟨shown, hshown, hfield⟩ := forall₂_getElem? (form_ok hg) hi
  obtain ⟨hsource, resource, hresource, hname⟩ := formField_ok hfield hf hrelated
  refine ⟨v, shown, hv, hshown, ?_, hvalidates.imported related hf hrelated, ?_, ?_, resource, hsource, hresource, ?_⟩
  · exact ⟨_, hvalidates.name, hvalidates.relation related hf hrelated, idValidatorName_eq_iff hnames⟩
  · intro imp himp hentity
    rw [(himports imp himp).idValidator, hentity]
    exact idValidatorName_eq_iff hnames
  · intro imp himp hentity
    obtain ⟨n, hn, hstem⟩ := (himports imp himp).fileStem
    rw [hentity, hnames] at hn
    cases hn
    rw [hstem]
    exact ⟨rfl, fun o parts ho hparts => validationPart_stem hnames ho hparts⟩
  · intro hplain
    have hsame : some resource.name = some own.names.resource := by
      rw [← hname, resourceName?_eq hplain, hnames]
      rfl
    refine ⟨Option.some.inj hsame, fun ep hep => ?_⟩
    rw [Option.some.inj hsame]
    exact endpoint_path hnames hep

def lampSource (declared : String) : String :=
  "model Lamp \x7b\n  id Int @id\n  light " ++ declared ++ "\n\x7d\nmodel " ++ declared ++ " \x7b\n  id Int @id\n\x7d\n"

def idField : Field := ⟨"id", "Int", true, false, false, false, none, none, .none⟩

def lightField (declared : String) : Field := ⟨"light", declared, false, false, false, false, none, none, .implicit⟩

def lampEntity (declared : String) : Entity := ⟨"Lamp", 1, [idField, lightField declared]⟩

def lightEntity (declared : String) : Entity := ⟨declared, 5, [idField]⟩

def lampSchema (declared : String) : Schema := ⟨[lampEntity declared, lightEntity declared], [], []⟩

def calledByLamp (m : ValidationModel) (g : FormModel) : List String × List String :=
  (m.imports.map (·.idValidator), (g.fields.filterMap (·.resource)).map (·.name))

/-- a model in English is called what it calls itself -/
theorem relation_refersTo_light : ∃ m own g v shown,
    validation (lampSchema "Light") (lampEntity "Light") = .ok m ∧
    form (lampSchema "Light") (lampEntity "Light") = .ok g ∧
    validation (lampSchema "Light") (lightEntity "Light") = .ok own ∧
    calledByLamp m g = (["lightIdSchema"], ["lights"]) ∧
    RefersTo (lampSchema "Light") (lampEntity "Light") (lightEntity "Light") (lightField "Light") own.names m v shown ∧
    PlainInitial "Light" := by
  have hm : (validation (lampSchema "Light") (lampEntity "Light")).toOption.map (fun m =>
      m.imports.map (·.idValidator)) = some ["lightIdSchema"] := by decide +kernel
  have hg : (form (lampSchema "Light") (lampEntity "Light")).toOption.map (fun g =>
      (g.fields.filterMap (·.resource)).map (·.name)) = some ["lights"] := by decide +kernel
  have hown : (validation (lampSchema "Light") (lightEntity "Light")).toOption.map (·.names.idValidator) =
      some "lightIdSchema" := by decide +kernel
  obtain ⟨m, hm, himports⟩ := ok_of_toOption_map hm
  obtain ⟨g, hg, hresources⟩ := ok_of_toOption_map hg
  obtain ⟨own, hown, -⟩ := ok_of_toOption_map hown
  obtain ⟨v, shown, -, -, hrefers⟩ :=
    relation_refersTo (lampSchema "Light") (lampEntity "Light") (lightEntity "Light") 1
    (lightField "Light") m own g rfl (by decide) (by decide +kernel) hm hg hown
  exact ⟨m, own, g, v, shown, hm, hg, hown, Prod.ext himports hresources, hrefers, plainInitial_ascii (by decide)⟩

/-- a dotless i comes back from upper case with its dot: nothing has the names by which the model is called -/
theorem relation_strays_dotless : ∃ outcome m own g, Document.load false (lampSource "ışık") = .ok outcome ∧
    validation outcome.schema (lampEntity "ışık") = .ok m ∧ form outcome.schema (lampEntity "ışık") = .ok g ∧
    validation outcome.schema (lightEntity "ışık") = .ok own ∧
    calledByLamp m g = (["ışıkIdSchema"], ["ışıks"]) ∧
    own.names.idValidator = "işıkIdSchema" ∧ own.names.resource = "işıks" := by
  have hload : (Document.load false (lampSource "ışık")).toOption.map (·.schema) = some (lampSchema "ışık") := by
    decide +kernel
  have hm : (validation (lampSchema "ışık") (lampEntity "ışık")).toOption.map (fun m => m.imports.map (·.idValidator)) =
      some ["ışıkIdSchema"] := by decide +kernel
  have hg : (form (lampSchema "ışık") (lampEntity "ışık")).toOption.map (fun g =>
      (g.fields.filterMap (·.resource)).map (·.name)) = some ["ışıks"] := by decide +kernel
  have hown : (validation (lampSchema "ışık") (lightEntity "ışık")).toOption.map (fun own =>
      (own.names.idValidator, own.names.resource)) = some ("işıkIdSchema", "işıks") := by decide +kernel
  obtain ⟨outcome, hload, hschema⟩ := ok_of_toOption_map hload
  obtain ⟨m, hm, himports⟩ := ok_of_toOption_map hm
  obtain ⟨g, hg, hresources⟩ := ok_of_toOption_map hg
  obtain ⟨own, hown, hnames⟩ := ok_of_toOption_map hown
  obtain ⟨hvalidator, hresource⟩ := Prod.mk.inj hnames
  rw [← hschema] at hm hg hown
  exact ⟨outcome, m, own, g, hload, hm, hg, hown, Prod.ext himports hresources, hvalidator, hresource⟩

end EntityScaffold

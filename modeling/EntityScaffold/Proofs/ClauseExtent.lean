import EntityScaffold.Proofs.ClauseScan

/-!
Where a clause ends. The tokens of a clause end at the first place where its parentheses are closed. A text whose
parentheses close within it (`Enclosed`) keeps the clause open between the outer parentheses, so a clause with one list
of arguments is cut off from whatever follows it (`splitClauseFrom_enclosed`).
-/

namespace EntityScaffold.Line

open Text

theorem splitClauseFrom_cut {e : Extent} {tokens after : List (List Char)} (hne : tokens ≠ [])
    (hopen : ∀ a b, a ≠ [] → b ≠ [] → a ++ b = tokens → (a.flatten.foldl Extent.next e).isComplete (b ++ after) = false)
    (hclosed : (tokens.flatten.foldl Extent.next e).isComplete after = true) :
    splitClauseFrom e (tokens ++ after) = (tokens, after) := by
  induction tokens generalizing e with
  | nil => exact absurd rfl hne
  | cons token rest ih =>
    by_cases hrest : rest = []
    · subst hrest
      rw [List.flatten_singleton] at hclosed
      simp only [List.cons_append, List.nil_append, splitClauseFrom, hclosed, if_true]
    · have hfirst := hopen [token] rest (List.cons_ne_nil _ _) hrest rfl
      rw [List.flatten_singleton] at hfirst
      rw [List.flatten_cons, List.foldl_append] at hclosed
      have hcut := ih hrest (fun a b ha hb hab => by
        have hlater := hopen (token :: a) b (List.cons_ne_nil _ _) hb (by rw [List.cons_append, hab])
        rwa [List.flatten_cons, List.foldl_append] at hlater) hclosed
      simp only [List.cons_append, splitClauseFrom, hfirst, Bool.false_eq_true, if_false, hcut]

theorem next_space (e : Extent) : e.next ' ' = e := by simp [Extent.next]

/-- spaces between tokens do not move the extent of a clause -/
theorem foldl_next_joinTokens (e : Extent) (tokens : List (List Char)) :
    (joinTokens tokens).foldl Extent.next e = tokens.flatten.foldl Extent.next e := by
  induction tokens generalizing e with
  | nil => rfl
  | cons token rest ih =>
    by_cases hrest : rest = []
    · subst hrest
      simp
    · rw [joinTokens_cons hrest, List.foldl_append, List.foldl_cons, next_space, ih, List.flatten_cons,
        List.foldl_append]

/-- the parentheses of the text close within it: it leaves the extent as it was, and closes nothing that was open -/
structure Enclosed (text : List Char) : Prop where
  closed : ∀ e : Extent, e.opened = true → e.quoted = false → text.foldl Extent.next e = e
  level : ∀ e : Extent, e.opened = true → e.quoted = false → ∀ part rest, part ++ rest = text →
    e.depth ≤ (part.foldl Extent.next e).depth

theorem Flat.enclosed {text : List Char} (h : Flat text) : Enclosed text where
  closed e _ he := h.closed e he
  level e _ he part rest hpart := (h.level e he part rest hpart).ge

theorem enclosed_nil : Enclosed [] where
  closed _ _ _ := rfl
  level _ _ _ part _ h := by rw [(List.append_eq_nil_iff.1 h).1]; rfl

theorem Enclosed.append {a b : List Char} (ha : Enclosed a) (hb : Enclosed b) : Enclosed (a ++ b) where
  closed e hopened he := by rw [List.foldl_append, ha.closed e hopened he, hb.closed e hopened he]
  level e hopened he part rest h := by
    rcases List.append_eq_append_iff.1 h with ⟨more, hmore, -⟩ | ⟨more, rfl, hmore⟩
    · exact ha.level e hopened he part more hmore.symm
    · rw [List.foldl_append, ha.closed e hopened he]
      exact hb.level e hopened he more rest hmore.symm

theorem enclosed_char {c : Char} (hquote : c ≠ '"') (hopen : c ≠ '(') (hclose : c ≠ ')') : Enclosed [c] := by
  have hnext : ∀ e : Extent, e.quoted = false → e.next c = e := fun e he => by
    simp [Extent.next, hquote, hopen, hclose, he]
  refine ⟨fun e _ he => hnext e he, fun e _ he part rest h => ?_⟩
  rcases List.append_eq_singleton_iff.1 h with ⟨rfl, -⟩ | ⟨rfl, -⟩
  · exact le_refl _
  · exact (congrArg Extent.depth (hnext e he)).ge

theorem Enclosed.parentheses {inner : List Char} (h : Enclosed inner) : Enclosed ('(' :: (inner ++ [')'])) := by
  have hnext : ∀ e : Extent, e.opened = true → e.quoted = false → e.next '(' = ⟨e.depth + 1, true, false⟩ :=
    fun e _ he => by simp [Extent.next, he]
  refine ⟨fun e hopened he => ?_, fun e hopened he part rest hpart => ?_⟩
  · rw [List.foldl_cons, hnext e hopened he, List.foldl_append, h.closed _ rfl rfl]
    obtain ⟨depth, opened, quoted⟩ := e
    simp only at hopened he
    simp [Extent.next, hopened, he]
  · cases part with
    | nil => exact le_refl _
    | cons c part =>
      obtain ⟨rfl, hinner⟩ := List.cons.inj hpart
      rw [List.foldl_cons, hnext e hopened he]
      rcases List.append_eq_append_iff.1 hinner with ⟨more, hmore, -⟩ | ⟨more, rfl, hmore⟩
      · have hlevel := h.level ⟨e.depth + 1, true, false⟩ rfl rfl part more hmore.symm
        simp only at hlevel
        omega
      · rw [List.foldl_append, h.closed _ rfl rfl]
        rcases List.append_eq_singleton_iff.1 hmore.symm with ⟨rfl, -⟩ | ⟨rfl, -⟩
        · simp
        · simp [Extent.next]

/-- the extent between the outer parentheses of a clause -/
def Extent.inside : Extent := ⟨1, true, false⟩

/-- an opening parenthesis is the first character of the token it stands in front of -/
theorem startsWithParen_of_joinTokens {tokens : List (List Char)} {text : List Char}
    (h : joinTokens tokens = '(' :: text) (after : List (List Char)) :
    (tokens ++ after).head?.any startsWithParen = true := by
  cases tokens with
  | nil => cases h
  | cons token rest =>
    have hhead : token.head? = some '(' := by
      by_cases hrest : rest = []
      · subst hrest
        rw [joinTokens_singleton] at h
        rw [h]
        rfl
      · rw [joinTokens_cons hrest] at h
        cases token with
        | nil => cases h
        | cons c token => rw [(List.cons.inj h).1]; rfl
    simp [startsWithParen, hhead]

section ArgumentList

variable {gap inner : List Char} {a b after : List (List Char)}

/-- where tokens are parted in front of the arguments, they are parted by the space after the marker -/
theorem marker_parted (hgap : gap = [] ∨ gap = [' ']) {lead tail : List Char}
    (h : lead ++ ' ' :: tail = relationMarker ++ gap) : lead = relationMarker ∧ tail = [] := by
  have hmarker : ∀ text, ' ' :: text ≠ [] → lead ++ ' ' :: text ≠ relationMarker := by
    rintro text - heq
    exact absurd (heq ▸ List.mem_append_right lead List.mem_cons_self : ' ' ∈ relationMarker) (by decide)
  rcases hgap with rfl | rfl
  · exact absurd (h.trans (List.append_nil _)) (hmarker tail (List.cons_ne_nil _ _))
  · rcases List.append_eq_append_iff.1 h with ⟨more, hmore, hrest⟩ | ⟨more, rfl, hrest⟩
    · cases more with
      | nil => exact ⟨(hmore.trans (List.append_nil _)).symm, (List.cons.inj hrest).2⟩
      | cons x more =>
        obtain rfl := (List.cons.inj hrest).1
        exact absurd hmore.symm (hmarker more (List.cons_ne_nil _ _))
    · rcases List.append_eq_singleton_iff.1 hrest.symm with ⟨rfl, htail⟩ | ⟨-, hnil⟩
      · exact ⟨List.append_nil _, (List.cons.inj htail).2⟩
      · cases hnil

theorem foldl_next_front (hgap : gap = [] ∨ gap = [' ']) :
    (relationMarker ++ (gap ++ ['('])).foldl Extent.next .start = .inside := by
  rcases hgap with rfl | rfl <;> decide

theorem isComplete_parted (hgap : gap = [] ∨ gap = [' ']) (hinner : Enclosed inner)
    (h : joinTokens a ++ ' ' :: joinTokens b = relationMarker ++ (gap ++ '(' :: (inner ++ [')']))) :
    ((joinTokens a).foldl Extent.next .start).isComplete (b ++ after) = false := by
  rw [← List.append_assoc] at h
  rcases List.append_eq_append_iff.1 h with ⟨more, hmore, hrest⟩ | ⟨part, hpart, hrest⟩
  · -- in front of the arguments it waits for them
    cases more with
    | nil => exact absurd (List.cons.inj hrest).1 (by decide)
    | cons x more =>
      obtain ⟨rfl, hb⟩ := List.cons.inj hrest
      obtain ⟨ha, rfl⟩ := marker_parted hgap hmore.symm
      have hstart : relationMarker.foldl Extent.next .start = .start := by decide
      have hparen := startsWithParen_of_joinTokens hb after
      rw [ha, hstart, Extent.isComplete, hparen]
      rfl
  · -- and among them its depth is one at least
    cases part with
    | nil => exact absurd (List.cons.inj hrest).1 (by decide)
    | cons x part =>
      obtain ⟨rfl, hafter⟩ := List.cons.inj hrest
      have hlevel : ∃ more, part ++ more = inner := by
        rcases List.append_eq_append_iff.1 hafter with ⟨more, hmore, hlast⟩ | ⟨more, hmore, -⟩
        · rcases List.append_eq_singleton_iff.1 hlast.symm with ⟨-, hspace⟩ | ⟨-, hnil⟩
          · exact absurd (List.cons.inj hspace).1 (by decide)
          · cases hnil
        · exact ⟨more, hmore.symm⟩
      obtain ⟨more, hmore⟩ := hlevel
      have hdepth : 1 ≤ (part.foldl Extent.next .inside).depth := hinner.level .inside rfl rfl part more hmore
      have hlead : joinTokens a = relationMarker ++ (gap ++ ['(']) ++ part := by simpa using hpart
      rw [hlead, List.foldl_append, foldl_next_front hgap]
      simp only [Extent.isComplete, Bool.and_eq_false_iff, decide_eq_false_iff_not]
      exact Or.inl (Or.inl (by omega))

/-- **A clause is cut off whole** from the tokens that follow it. -/
theorem splitClauseFrom_enclosed (hgap : gap = [] ∨ gap = [' ']) (hinner : Enclosed inner) {clause : List (List Char)}
    (h : joinTokens clause = relationMarker ++ (gap ++ '(' :: (inner ++ [')']))) (after : List (List Char)) :
    splitClauseFrom .start (clause ++ after) = (clause, after) := by
  refine splitClauseFrom_cut ?_ (fun a b ha hb hab => ?_) ?_
  · rintro rfl
    exact absurd h.symm (List.append_ne_nil_of_left_ne_nil (by decide) _)
  · rw [← foldl_next_joinTokens]
    refine isComplete_parted hgap hinner ?_
    rw [← joinTokens_append ha hb, hab, h]
  · have hwhole : relationMarker ++ (gap ++ '(' :: (inner ++ [')'])) =
        relationMarker ++ (gap ++ ['(']) ++ inner ++ [')'] := by simp
    rw [← foldl_next_joinTokens, h, hwhole, List.foldl_append, List.foldl_append, foldl_next_front hgap,
      hinner.closed .inside rfl rfl]
    rfl

end ArgumentList

end EntityScaffold.Line

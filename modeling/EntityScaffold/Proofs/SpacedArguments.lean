import EntityScaffold.Proofs.OpaqueName
import EntityScaffold.Proofs.TokenShape

/-!
A space next to a mark. The arguments of a clause are told apart by parentheses, brackets, commas and colons, and blanks
next to them are trimmed wherever a value is cut out. So one more space next to a mark leaves the name, the lists and
the actions as they are (`readClause_spaced`); a text that is kept with a mark in it, as a list in a list is, keeps the
space as well and is compared without blanks (`loosened`). The one place that is not trimmed is in front of a name
without a key: behind a space it is no name (`readClause_unled`).
-/

namespace EntityScaffold.Line

open Text

/-! ## Marks -/

def marks : List Char := ['(', ')', '[', ']', ',', ':']

theorem mark_not_blank {c : Char} (h : c ∈ marks) : isBlank c = false := by
  have hall : marks.all (!isBlank ·) = true := by decide
  simpa using List.all_eq_true.1 hall c h

theorem mark_not_word {c : Char} (h : c ∈ marks) : isWordChar c = false := by
  have hall : marks.all (!isWordChar ·) = true := by decide +kernel
  simpa using List.all_eq_true.1 hall c h

/-- the place between two texts is next to a mark, or at the end of one of them -/
def AtMark (lead tail : List Char) : Prop := (∀ c ∈ lead.getLast?, c ∈ marks) ∨ ∀ c ∈ tail.head?, c ∈ marks

theorem AtMark.of_getLast? {lead : List Char} {c : Char} (h : lead.getLast? = some c) (hc : c ∈ marks)
    (tail : List Char) : AtMark lead tail :=
  Or.inl fun d hd => by rwa [← Option.some.inj (h.symm.trans hd)]

theorem AtMark.part {lead tail lead' tail' : List Char} (h : AtMark lead tail) (hlead : lead' <:+ lead)
    (htail : tail' <+: tail) : AtMark lead' tail' := by
  refine h.imp (fun h c hc => h c ?_) fun h c hc => h c ?_
  · obtain ⟨more, rfl⟩ := hlead
    rw [Option.mem_def] at hc ⊢
    rw [List.getLast?_append, hc]
    rfl
  · obtain ⟨more, rfl⟩ := htail
    rw [Option.mem_def] at hc ⊢
    rw [List.head?_append, hc]
    rfl

/-! ## Texts that are compared without blanks -/

/-- a text with a mark in it without its blanks; another text as it is -/
def loosened (text : List Char) : List Char := if text.any (marks.contains ·) then text.filter (!isBlank ·) else text

section Loosened

variable {a b text : List Char}

theorem filter_blanks {gap : List Char} (h : ∀ c ∈ gap, isBlank c = true) : gap.filter (!isBlank ·) = [] :=
  List.filter_eq_nil_iff.2 fun c hc => by simp [h c hc]

theorem filter_trim (text : List Char) : (trim text).filter (!isBlank ·) = text.filter (!isBlank ·) := by
  obtain ⟨lead, tail, htext, hlead, htail⟩ := trim_append text
  nth_rewrite 2 [htext]
  rw [List.filter_append, List.filter_append, filter_blanks hlead, filter_blanks htail, List.nil_append,
    List.append_nil]

theorem any_mark_trim (text : List Char) : (trim text).any (marks.contains ·) = text.any (marks.contains ·) := by
  have hblanks : ∀ {gap : List Char}, (∀ c ∈ gap, isBlank c = true) → gap.any (marks.contains ·) = false := by
    intro gap hgap
    refine List.any_eq_false.2 fun c hc hmark => ?_
    have hblank := mark_not_blank (List.contains_iff_mem.1 hmark)
    rw [hgap c hc] at hblank
    cases hblank
  obtain ⟨lead, tail, htext, hlead, htail⟩ := trim_append text
  nth_rewrite 2 [htext]
  rw [List.any_append, List.any_append, hblanks hlead, hblanks htail, Bool.false_or, Bool.or_false]

theorem trim_eq_nil_iff : trim text = [] ↔ text.filter (!isBlank ·) = [] := by
  refine ⟨fun h => by rw [← filter_trim, h]; rfl, fun h => ?_⟩
  rw [← filter_trim] at h
  cases htrim : trim text with
  | nil => rfl
  | cons c rest =>
    rw [htrim] at h
    have hc := List.filter_eq_nil_iff.1 h c List.mem_cons_self
    rw [trim_head text c (by rw [htrim]; rfl)] at hc
    exact absurd rfl hc

theorem filter_space (a b : List Char) : (a ++ ' ' :: b).filter (!isBlank ·) = (a ++ b).filter (!isBlank ·) := by
  have hspace : isBlank ' ' = true := by decide
  simp [hspace]

/-- **A space next to a mark** is trimmed or stands in a text with that mark. -/
theorem loosened_space (h : AtMark a b) :
    (trim (a ++ ' ' :: b) = [] ↔ trim (a ++ b) = []) ∧ loosened (trim (a ++ ' ' :: b)) = loosened (trim (a ++ b)) := by
  refine ⟨by rw [trim_eq_nil_iff, trim_eq_nil_iff, filter_space], ?_⟩
  have hmarks : (a ++ ' ' :: b).any (marks.contains ·) = (a ++ b).any (marks.contains ·) := by
    have hspace : marks.contains ' ' = false := by decide
    rw [List.any_append, List.any_cons, hspace, Bool.false_or, ← List.any_append]
  unfold loosened
  rw [any_mark_trim, any_mark_trim, hmarks]
  split
  · rw [filter_trim, filter_trim, filter_space]
  · next hnone =>
    -- without a mark the place is at an end of the text
    have hnot : ∀ c ∈ a ++ b, c ∉ marks := fun c hc hmark =>
      hnone (List.any_eq_true.2 ⟨c, hc, List.contains_iff_mem.2 hmark⟩)
    rcases h with h | h
    · have hnil : a = [] := by
        by_contra hne
        have hlast := List.getLast?_eq_getLast_of_ne_nil hne
        exact hnot _ (List.mem_append_left _ (List.getLast_mem hne)) (h _ hlast)
      rw [hnil]
      exact trim_blanks_append b space_blank
    · have hnil : b = [] := by
        cases b with
        | nil => rfl
        | cons c b => exact absurd (h c rfl) (hnot c (List.mem_append_right _ List.mem_cons_self))
      rw [hnil, List.append_nil]
      exact trim_append_blanks a space_blank

/-- without a mark a text is told by what is compared -/
theorem loosened_plain (h : text.any (marks.contains ·) = false) {other : List Char}
    (hsame : loosened other = loosened text) : other = text := by
  rw [loosened, loosened, h, if_neg Bool.false_ne_true] at hsame
  split at hsame
  · next hmark =>
    obtain ⟨c, hc, hcmark⟩ := List.any_eq_true.1 hmark
    have hkept : c ∈ text := by
      rw [← hsame, List.mem_filter]
      exact ⟨hc, by simp [mark_not_blank (List.contains_iff_mem.1 hcmark)]⟩
    exact absurd hcmark (List.any_eq_false.1 h c hkept)
  · exact hsame

end Loosened

/-! ## The search for a key -/

section Search

variable {key lead tail : List Char} {before : Option Char}

/-- the text ends with the key and its colon -/
def EndsWithKey (key text : List Char) : Prop :=
  ∃ part gap, text = part ++ (key ++ (gap ++ [':'])) ∧ ∀ c ∈ gap, isBlank c = true

/-- no word goes on over the place between two texts -/
def PartsWords (before : Option Char) (lead tail : List Char) : Prop :=
  (lead.getLast?.or before).any isWordChar = false ∨ tail.head?.any isWordChar = false

theorem AtMark.partsWords (h : AtMark lead tail) : PartsWords none lead tail := by
  have hnone : ∀ o : Option Char, (∀ c ∈ o, c ∈ marks) → o.any isWordChar = false := by
    rintro (_ | c) h
    · rfl
    · exact mark_not_word (h c rfl)
  refine h.imp (fun h => ?_) (hnone _)
  rw [Option.or_none]
  exact hnone _ h

/-- a word that is not at the start of the first text is at the start of no text around the place -/
theorem not_prefix_of_partsWords (hkey : IsWord key) (h : PartsWords before lead tail) (hne : lead ≠ [])
    (hlead : ¬key <+: lead) : ¬key <+: lead ++ tail := by
  rintro ⟨after, hafter⟩
  rcases List.append_eq_append_iff.1 hafter with ⟨more, hmore, -⟩ | ⟨more, hmore, htail⟩
  · exact hlead ⟨more, hmore.symm⟩
  · have hword : ∀ c ∈ lead ++ more, isWordChar c = true := hmore ▸ hkey.chars
    cases more with
    | nil => exact hlead ⟨[], by rw [hmore, List.append_nil, List.append_nil]⟩
    | cons d more =>
      rcases h with h | h
      · rw [List.getLast?_eq_getLast_of_ne_nil hne, Option.some_or, Option.any_some,
          hword _ (List.mem_append_left _ (List.getLast_mem hne))] at h
        cases h
      · rw [htail, List.cons_append, List.head?_cons, Option.any_some,
          hword d (List.mem_append_right _ List.mem_cons_self)] at h
        cases h

theorem partsWords_space (before : Option Char) (lead tail : List Char) : PartsWords before lead (' ' :: tail) := by
  have hspace : isWordChar ' ' = false := by decide
  exact Or.inr hspace

/-- a place where no word starts is skipped -/
theorem afterKeyFrom_skip_start {c : Char} {rest : List Char} (h : ¬key <+: c :: rest) :
    afterKeyFrom key before (c :: rest) = afterKeyFrom key (some c) rest :=
  afterKeyFrom_skip_char fun after hafter => absurd ⟨after, hafter⟩ h

/-- a space behind blanks is skipped, and behind another character it stands in what is left -/
theorem trimStart_spaced (value tail : List Char) : trimStart (value ++ ' ' :: tail) = trimStart (value ++ tail) ∨
    ∃ c rest, trimStart value = c :: rest ∧ ∀ text, trimStart (value ++ text) = c :: (rest ++ text) := by
  obtain ⟨gap, hgap, hblanks⟩ := trimStart_append value
  cases htrim : trimStart value with
  | nil =>
    rw [htrim, List.append_nil] at hgap
    left
    rw [hgap, trimStart_blanks_append _ hblanks, trimStart_blanks_append _ hblanks]
    exact trimStart_blanks_append tail space_blank
  | cons c rest =>
    refine Or.inr ⟨c, rest, rfl, fun text => ?_⟩
    have hdrop : value.dropWhile isBlank = c :: rest := htrim
    rw [trimStart, List.dropWhile_append, hdrop]
    rfl

/-- two searches, one with a space at the place, find the same, or values that reach over the place and differ in the
space -/
def FindAlike (key lead tail : List Char) (tight spaced : Option (List Char)) : Prop :=
  spaced = tight ∨ ∃ found value, lead = found ++ value ∧ EndsWithKey key found ∧
    tight = some (value ++ tail) ∧ spaced = some (value ++ ' ' :: tail)

theorem FindAlike.cons {tight spaced : Option (List Char)} (h : FindAlike key lead tail tight spaced) (c : Char) :
    FindAlike key (c :: lead) tail tight spaced := by
  rcases h with hsame | ⟨found, value, rfl, ⟨part, gap, rfl, hgap⟩, htight, hspaced⟩
  · exact Or.inl hsame
  · exact Or.inr ⟨_, value, rfl, ⟨c :: part, gap, rfl, hgap⟩, htight, hspaced⟩

/-- in front of a text the space is skipped -/
theorem findAlike_start (hkey : IsWord key) (h : PartsWords before [] tail) :
    FindAlike key [] tail (afterKeyFrom key before tail) (afterKeyFrom key before (' ' :: tail)) := by
  left
  rw [afterKeyFrom_space hkey]
  rcases h with h | h
  · have hbefore : before.any isWordChar = false := h
    rw [afterKeyFrom_start (by decide), afterKeyFrom_start hbefore]
  · cases tail with
    | nil => rfl
    | cons c tail =>
      have hskip : ¬key <+: c :: tail := by
        rintro ⟨after, hafter⟩
        obtain ⟨k, more, rfl⟩ := List.exists_cons_of_ne_nil hkey.nonempty
        have hc : isWordChar c = false := h
        rw [← (List.cons.inj hafter).1, hkey.chars k List.mem_cons_self] at hc
        cases hc
      rw [afterKeyFrom_skip_start hskip, afterKeyFrom_skip_start hskip]

/-- where the key stands the search ends with a colon behind it, in front of the place or behind it, or goes on -/
theorem findAlike_here {c : Char} {after : List Char} (hafter : key ++ after = c :: lead)
    (hrest : FindAlike key lead tail (afterKeyFrom key (some c) (lead ++ tail))
      (afterKeyFrom key (some c) (lead ++ ' ' :: tail))) :
    FindAlike key (c :: lead) tail (afterKeyFrom key before (c :: (lead ++ tail)))
      (afterKeyFrom key before (c :: (lead ++ ' ' :: tail))) := by
  have hprefix : ∀ text, key.isPrefixOf? (c :: (lead ++ text)) = some (after ++ text) := by
    intro text
    rw [List.isPrefixOf?_eq_some_iff_append_eq, ← List.append_assoc, hafter, List.cons_append]
  rw [afterKeyFrom, afterKeyFrom, hprefix, hprefix]
  dsimp only
  by_cases hbefore : before.any isWordChar = true
  · rw [if_pos hbefore, if_pos hbefore]
    exact hrest.cons c
  rw [if_neg hbefore, if_neg hbefore]
  rcases trimStart_spaced after tail with hspace | ⟨d, value, htrim, hlonger⟩
  · -- the colon, if there is one, stands behind the place
    rw [hspace]
    split
    · exact Or.inl rfl
    · exact hrest.cons c
  · rw [hlonger, hlonger]
    by_cases hcolon : d = ':'
    · subst hcolon
      obtain ⟨gap, hgap, hblanks⟩ := trimStart_append after
      have hlead : c :: lead = (key ++ (gap ++ [':'])) ++ value := by
        rw [← hafter, hgap, htrim]
        simp
      exact Or.inr ⟨key ++ (gap ++ [':']), value, hlead, ⟨[], gap, rfl, hblanks⟩, rfl, rfl⟩
    · split
      · next heq => exact absurd (List.cons.inj heq).1 hcolon
      · split
        · next heq => exact absurd (List.cons.inj heq).1 hcolon
        · exact hrest.cons c

/-- **A search across a space.** Where no word goes on over the place, a space there does not move what is found. -/
theorem findAlike (hkey : IsWord key) (h : PartsWords before lead tail) :
    FindAlike key lead tail (afterKeyFrom key before (lead ++ tail))
      (afterKeyFrom key before (lead ++ ' ' :: tail)) := by
  induction lead generalizing before with
  | nil => exact findAlike_start hkey h
  | cons c lead ih =>
    have hrest : FindAlike key lead tail (afterKeyFrom key (some c) (lead ++ tail))
        (afterKeyFrom key (some c) (lead ++ ' ' :: tail)) := ih (by rwa [PartsWords, getLast?_cons_or] at h)
    by_cases hhere : key <+: c :: lead
    · obtain ⟨after, hafter⟩ := hhere
      exact findAlike_here hafter hrest
    · have hskip : ¬key <+: c :: (lead ++ tail) := not_prefix_of_partsWords hkey h (List.cons_ne_nil _ _) hhere
      have hskip' : ¬key <+: c :: (lead ++ ' ' :: tail) :=
        not_prefix_of_partsWords hkey (partsWords_space before _ _) (List.cons_ne_nil _ _) hhere
      rw [List.cons_append, List.cons_append, afterKeyFrom_skip_start hskip, afterKeyFrom_skip_start hskip']
      exact hrest.cons c

end Search

/-! ## Values -/

/-- a text that was kept, as it is compared -/
def loosenText (text : String) : String := String.ofList (loosened text.toList)

section Values

variable {lead tail a b : List Char}

theorem loosenText_ofList (text : List Char) : loosenText (String.ofList text) = String.ofList (loosened text) := by
  rw [loosenText, String.toList_ofList]

/-- what a search finds around a place next to a mark -/
theorem afterKey?_spaced {key : String} (hkey : IsWord key.toList) (h : AtMark lead tail) :
    afterKey? key (lead ++ ' ' :: tail) = afterKey? key (lead ++ tail) ∨
      ∃ found value, lead = found ++ value ∧ EndsWithKey key.toList found ∧ AtMark value tail ∧
        afterKey? key (lead ++ tail) = some (value ++ tail) ∧
        afterKey? key (lead ++ ' ' :: tail) = some (value ++ ' ' :: tail) := by
  rcases findAlike hkey h.partsWords with hsame | ⟨found, value, rfl, hfound, htight, hspaced⟩
  · exact Or.inl hsame
  · exact Or.inr ⟨found, value, rfl, hfound, h.part (List.suffix_append _ _) List.prefix_rfl, htight, hspaced⟩

/-- the pieces of a text between commas are those of the text with a space, but for the piece around the place -/
theorem splitOn_space (a b : List Char) : ∃ init x y rest, (a ++ b).splitOn ',' = init ++ (x ++ y) :: rest ∧
    (a ++ ' ' :: b).splitOn ',' = init ++ (x ++ ' ' :: y) :: rest ∧ x <:+ a ∧ y <+: b ∧ (init = [] → x = a) := by
  induction a with
  | nil =>
    obtain ⟨first, rest, hsplit⟩ := List.exists_cons_of_ne_nil (List.splitOn_ne_nil ',' b)
    have hspaced : (' ' :: b).splitOn ',' = (' ' :: first) :: rest := by
      rw [List.splitOn_cons_eq_if_modifyHead, if_neg (by decide), hsplit]
      rfl
    refine ⟨[], [], first, rest, hsplit, hspaced, List.nil_suffix, ?_, fun _ => rfl⟩
    have hjoin : List.intercalate [','] (b.splitOn ',') = b := List.intercalate_splitOn ','
    rw [hsplit] at hjoin
    cases rest with
    | nil => exact ⟨[], by simpa [List.intercalate] using hjoin⟩
    | cons next rest =>
      rw [List.intercalate_cons_cons, List.append_assoc] at hjoin
      exact ⟨_, hjoin⟩
  | cons c a ih =>
    obtain ⟨init, x, y, rest, htight, hspaced, hx, hy, hinit⟩ := ih
    rw [List.cons_append, List.cons_append, List.splitOn_cons_eq_if_modifyHead, List.splitOn_cons_eq_if_modifyHead,
      htight, hspaced]
    have hsuffix : x <:+ c :: a := hx.trans (List.suffix_cons c a)
    by_cases hc : (c == ',') = true
    · rw [if_pos hc, if_pos hc]
      exact ⟨[] :: init, x, y, rest, rfl, rfl, hsuffix, hy, nofun⟩
    · rw [if_neg hc, if_neg hc]
      cases init with
      | nil =>
        rw [hinit rfl]
        exact ⟨[], c :: a, y, rest, rfl, rfl, List.suffix_rfl, hy, fun _ => rfl⟩
      | cons first init => exact ⟨(c :: first) :: init, x, y, rest, rfl, rfl, hsuffix, hy, nofun⟩

/-- **Lists.** The entries around a space next to a mark are trimmed. -/
theorem listEntries_spaced (h : AtMark a b) :
    (listEntries (a ++ ' ' :: b)).map loosenText = (listEntries (a ++ b)).map loosenText := by
  obtain ⟨init, x, y, rest, htight, hspaced, hx, hy, -⟩ := splitOn_space a b
  obtain ⟨hnil, hsame⟩ := loosened_space (h.part hx hy)
  unfold listEntries
  rw [htight, hspaced]
  simp only [List.map_append, List.map_cons, List.filter_append, List.filter_cons]
  by_cases hempty : trim (x ++ y) = []
  · have hempty' := hnil.2 hempty
    simp only [hempty, hempty', ne_eq, not_true_eq_false, decide_false, Bool.false_eq_true, if_false]
  · have hempty' : trim (x ++ ' ' :: y) ≠ [] := fun hspace => hempty (hnil.1 hspace)
    simp only [hempty, hempty', ne_eq, not_false_eq_true, decide_true, if_true, List.map_cons, loosenText_ofList, hsame]

theorem upTo?_lead {d : Char} (h : d ∈ a) (rest : List Char) : upTo? d (a ++ rest) = upTo? d a := by
  obtain ⟨part, more, rfl, hpart⟩ := List.eq_append_cons_of_mem h
  rw [List.append_assoc, List.cons_append, upTo?_append hpart, upTo?_append hpart]

theorem upTo?_tail {d : Char} (h : d ∉ a) (rest : List Char) : upTo? d (a ++ rest) = (upTo? d rest).map (a ++ ·) := by
  by_cases hrest : d ∈ rest
  · obtain ⟨part, more, rfl, hpart⟩ := List.eq_append_cons_of_mem hrest
    have hboth : d ∉ a ++ part := by simp [h, hpart]
    rw [upTo?_append hpart, ← List.append_assoc, upTo?_append hboth]
    rfl
  · have hnone : ∀ {text : List Char}, d ∉ text → upTo? d text = none := fun hd => by
      rw [upTo?, if_neg (by simpa using hd)]
    have hboth : d ∉ a ++ rest := by simp [h, hrest]
    rw [hnone hrest, hnone hboth]
    rfl

theorem bracketList_spaced (key : ListKey) (h : AtMark lead tail) :
    (bracketList key (lead ++ ' ' :: tail)).map (·.map loosenText) =
      (bracketList key (lead ++ tail)).map (·.map loosenText) := by
  rcases afterKey?_spaced (isWord_key key) h with hsame | ⟨-, value, -, -, hat, htight, hspaced⟩
  · rw [bracketList, bracketList, hsame]
  rw [bracketList, bracketList, htight, hspaced]
  rcases trimStart_spaced value tail with hspace | ⟨c, inner, htrim, hlonger⟩
  · simp only [hspace]
  by_cases hopen : c = '['
  · subst hopen
    simp only [hlonger]
    by_cases hclose : ']' ∈ inner
    · simp only [upTo?_lead hclose]
    · have hinner : inner <:+ value := (List.suffix_cons '[' inner).trans (htrim ▸ List.dropWhile_suffix _)
      have hspace : upTo? ']' (' ' :: tail) = (upTo? ']' tail).map (' ' :: ·) :=
        upTo?_tail (a := [' ']) (by decide) tail
      simp only [upTo?_tail hclose, hspace]
      cases htext : upTo? ']' tail with
      | none => rfl
      | some text =>
        obtain ⟨-, rest, rfl⟩ := upTo?_split htext
        exact congrArg Except.ok (listEntries_spaced (hat.part hinner (List.prefix_append _ _)))
  · simp only [hlonger]
    split
    · next heq => exact absurd (List.cons.inj heq).1 hopen
    · split
      · next heq => exact absurd (List.cons.inj heq).1 hopen
      · rfl

/-- **Actions.** The value around a space next to a mark is trimmed. -/
theorem keyValue?_spaced {key : String} (hkey : IsWord key.toList) (h : AtMark lead tail) :
    (keyValue? key (lead ++ ' ' :: tail)).map loosenText = (keyValue? key (lead ++ tail)).map loosenText := by
  rcases afterKey?_spaced hkey h with hsame | ⟨-, value, -, -, hat, htight, hspaced⟩
  · rw [keyValue?, keyValue?, hsame]
  rw [keyValue?, keyValue?, htight, hspaced, Option.bind_some, Option.bind_some]
  by_cases hstop : (value.takeWhile fun c => c ≠ ',' && c ≠ ')').length = value.length
  · have hspace : (' ' :: tail).takeWhile (fun c => c ≠ ',' && c ≠ ')') =
        ' ' :: tail.takeWhile fun c => c ≠ ',' && c ≠ ')' := by simp
    rw [List.takeWhile_append, List.takeWhile_append, if_pos hstop, if_pos hstop, hspace]
    obtain ⟨hnil, hsame⟩ := loosened_space (hat.part List.suffix_rfl (List.takeWhile_prefix _))
    split
    · next hempty => rw [hnil.1 hempty]
    · next hempty =>
      have hempty' := fun hspace => hempty (hnil.2 hspace)
      split
      · next hspace => exact absurd hspace hempty'
      · rw [Option.map_some, Option.map_some, loosenText_ofList, loosenText_ofList, hsame]
  · rw [List.takeWhile_append, List.takeWhile_append, if_neg hstop, if_neg hstop]

/-- the last quote of the text stands behind the key of the name -/
def KeyedLast (text : List Char) : Prop := ∃ found gap rest, text = found ++ (gap ++ '"' :: rest) ∧
  EndsWithKey "name".toList found ∧ (∀ c ∈ gap, isBlank c = true) ∧ '"' ∉ rest

theorem KeyedLast.mem_key {text : List Char} (h : KeyedLast text) : ∀ c ∈ "name".toList, c ∈ text := by
  obtain ⟨found, gap, rest, rfl, ⟨part, gap', rfl, -⟩, -⟩ := h
  intro c hc
  simp only [List.mem_append]
  tauto

/-- **The name** is the same when the place is not in front of it and not between a quote behind its key and
the next. -/
theorem clauseName?_spaced (h : AtMark lead tail) (hstart : lead = [] → tail.head? ≠ some '"')
    (hclosed : ∀ inner, lead = '"' :: inner → '"' ∈ inner) (hkeyed : ¬KeyedLast lead) :
    clauseName? (lead ++ ' ' :: tail) = clauseName? (lead ++ tail) := by
  by_cases hquoted : (lead ++ tail).head? = some '"'
  · cases lead with
    | nil => exact absurd hquoted (hstart rfl)
    | cons c inner =>
      obtain rfl : c = '"' := Option.some.inj hquoted
      have hclose := hclosed inner rfl
      simp only [clauseName?, List.cons_append, List.head?_cons, if_true, upTo?_lead hclose]
  have hquoted' : (lead ++ ' ' :: tail).head? ≠ some '"' := by
    cases lead with
    | nil => simp
    | cons c inner => exact hquoted
  rw [clauseName?, clauseName?, if_neg hquoted, if_neg hquoted']
  rcases afterKey?_spaced isWord_name h with hsame | ⟨found, value, rfl, hfound, -, htight, hspaced⟩
  · rw [hsame]
  rw [htight, hspaced, Option.map_some, Option.map_some]
  rcases trimStart_spaced value tail with hspace | ⟨c, inner, htrim, hlonger⟩
  · rw [hspace]
  rw [hlonger, hlonger]
  by_cases hquote : c = '"'
  · subst hquote
    have hclose : '"' ∈ inner := by
      by_contra hopen
      obtain ⟨gap, hgap, hblanks⟩ := trimStart_append value
      exact hkeyed ⟨found, gap, inner, by rw [← htrim, ← hgap], hfound, hblanks, hopen⟩
    simp only [upTo?_lead hclose]
  · split
    · next heq => exact absurd (List.cons.inj (Option.some.inj heq)).1 hquote
    · split
      · next heq => exact absurd (List.cons.inj (Option.some.inj heq)).1 hquote
      · rfl

end Values

/-! ## The clause -/

def Clause.loosened (c : Clause) : Clause where
  name := c.name
  fields := c.fields.map loosenText
  references := c.references.map loosenText
  restrictions := ⟨c.restrictions.onUpdate.map loosenText, c.restrictions.onDelete.map loosenText⟩

/-- no text of a list or an action holds a mark -/
def Clause.IsPlain (c : Clause) : Prop :=
  ∀ text ∈ c.fields ++ c.references ++ c.restrictions.onUpdate.toList ++ c.restrictions.onDelete.toList,
    ∀ m ∈ text.toList, m ∉ marks

instance (c : Clause) : Decidable c.IsPlain :=
  @List.decidableBAll _ _ (fun text : String => List.decidableBAll (· ∉ marks) text.toList) _

section Plain

theorem loosenText_plain {text other : String} (h : ∀ m ∈ text.toList, m ∉ marks)
    (hsame : loosenText other = loosenText text) : other = text := by
  have hmarks : text.toList.any (marks.contains ·) = false :=
    List.any_eq_false.2 fun m hm hmark => h m hm (List.contains_iff_mem.1 hmark)
  have htexts : loosened other.toList = loosened text.toList := by
    rw [← String.toList_ofList (l := loosened other.toList), ← String.toList_ofList (l := loosened text.toList)]
    exact congrArg String.toList hsame
  rw [← String.ofList_toList (s := other), loosened_plain hmarks htexts, String.ofList_toList]

theorem map_loosenText_plain {texts others : List String} (h : ∀ text ∈ texts, ∀ m ∈ text.toList, m ∉ marks)
    (hsame : others.map loosenText = texts.map loosenText) : others = texts := by
  induction texts generalizing others with
  | nil => exact List.map_eq_nil_iff.1 hsame
  | cons text texts ih =>
    cases others with
    | nil => cases hsame
    | cons other others =>
      obtain ⟨hfirst, hrest⟩ := List.cons.inj hsame
      rw [loosenText_plain (h text List.mem_cons_self) hfirst, ih (fun t ht => h t (List.mem_cons_of_mem _ ht)) hrest]

theorem option_loosenText_plain {text other : Option String} (h : ∀ t ∈ text.toList, ∀ m ∈ t.toList, m ∉ marks)
    (hsame : other.map loosenText = text.map loosenText) : other = text := by
  cases text with
  | none => exact Option.map_eq_none_iff.1 hsame
  | some text =>
    obtain ⟨o, rfl, ho⟩ := Option.map_eq_some_iff.1 hsame
    rw [loosenText_plain (h text List.mem_cons_self) ho]

/-- a clause without marks is told by what is compared -/
theorem Clause.IsPlain.eq_of_loosened {c c' : Clause} (h : c.IsPlain) (hsame : c'.loosened = c.loosened) : c' = c := by
  obtain ⟨name, fields, references, onUpdate, onDelete⟩ := c
  obtain ⟨name', fields', references', onUpdate', onDelete'⟩ := c'
  simp only [Clause.loosened, Clause.mk.injEq, Restrictions.mk.injEq] at hsame
  obtain ⟨rfl, hfields, hreferences, hupdate, hdelete⟩ := hsame
  have hpart : ∀ text, (text ∈ fields ∨ text ∈ references ∨ text ∈ onUpdate.toList ∨ text ∈ onDelete.toList) →
      ∀ m ∈ text.toList, m ∉ marks := by
    refine fun text htext => h text ?_
    simp only [List.mem_append]
    tauto
  rw [map_loosenText_plain (fun t ht => hpart t (Or.inl ht)) hfields,
    map_loosenText_plain (fun t ht => hpart t (Or.inr (Or.inl ht))) hreferences,
    option_loosenText_plain (fun t ht => hpart t (Or.inr (Or.inr (Or.inl ht)))) hupdate,
    option_loosenText_plain (fun t ht => hpart t (Or.inr (Or.inr (Or.inr ht)))) hdelete]

end Plain

section Clause

variable {inner tail a b : List Char}

theorem isBalanced_spaced (a b : List Char) : isBalanced (a ++ ' ' :: b) = isBalanced (a ++ b) := by
  unfold isBalanced
  rcases balancedFrom_text a false [] with hbroken | ⟨quoted, stack, hrest, -⟩
  · rw [hbroken, hbroken]
  · rw [hrest, hrest]
    cases quoted <;> simp [balancedFrom, answered?]

theorem clauseArguments_spaced (inner : List Char) (hne : tail ≠ []) (hhead : ∀ c ∈ tail.head?, isBlank c = false) :
    ∃ lead rest, (lead = inner ∨ lead = '(' :: inner) ∧ rest <+: tail ∧
      clauseArguments (relationMarker ++ '(' :: (inner ++ tail)) = lead ++ rest ∧
      clauseArguments (relationMarker ++ '(' :: (inner ++ ' ' :: tail)) = lead ++ ' ' :: rest := by
  have hkept : trimEnd tail ≠ [] := by
    obtain ⟨c, rest, rfl⟩ := List.exists_cons_of_ne_nil hne
    have hkeep : trimEnd (c :: rest) = c :: trimEnd rest := trimEndWhile_cons (hhead c rfl) rest
    rw [hkeep]
    exact List.cons_ne_nil _ _
  obtain ⟨kept, c, htrim⟩ := (List.eq_nil_or_concat' _).resolve_left hkept
  have hc : isBlank c = false := trimEnd_tight tail c (by rw [htrim, List.getLast?_concat])
  obtain ⟨blanks, htail, hblanks⟩ := trimEnd_append tail
  rw [htrim] at htail
  have hargs : ∀ part, clauseArguments (relationMarker ++ '(' :: (part ++ tail)) =
      if c = ')' then part ++ kept else '(' :: (part ++ kept ++ [c]) := by
    intro part
    have hparts : '(' :: (part ++ tail) = '(' :: (part ++ kept ++ [c]) ++ blanks := by
      rw [htail]
      simp
    rw [hparts, clauseArguments_append_blanks _ hblanks, clauseArguments_open _ hc]
  have hspaced := hargs (inner ++ [' '])
  rw [List.append_assoc, List.singleton_append] at hspaced
  by_cases hclose : c = ')'
  · refine ⟨inner, kept, Or.inl rfl, ⟨[c] ++ blanks, by rw [htail]; simp⟩, ?_, ?_⟩
    · rw [hargs, if_pos hclose]
    · rw [hspaced, if_pos hclose]
      simp
  · refine ⟨'(' :: inner, kept ++ [c], Or.inr rfl, ⟨blanks, htail.symm⟩, ?_, ?_⟩
    · rw [hargs, if_neg hclose]
      simp
    · rw [hspaced, if_neg hclose]
      simp

theorem EndsWithKey.of_cons {key text : List Char} {c : Char} (hkey : key ≠ []) (hc : c ∉ key)
    (h : EndsWithKey key (c :: text)) : EndsWithKey key text := by
  obtain ⟨part, gap, htext, hgap⟩ := h
  cases part with
  | nil =>
    obtain ⟨k, more, rfl⟩ := List.exists_cons_of_ne_nil hkey
    exact absurd ((List.cons.inj htext).1 ▸ List.mem_cons_self) hc
  | cons d part => exact ⟨part, gap, (List.cons.inj htext).2, hgap⟩

theorem EndsWithKey.ne_nil {key text : List Char} (h : EndsWithKey key text) : text ≠ [] := by
  obtain ⟨part, gap, rfl, -⟩ := h
  simp

theorem KeyedLast.cons (h : KeyedLast inner) (c : Char) : KeyedLast (c :: inner) := by
  obtain ⟨found, gap, rest, rfl, ⟨part, gap', rfl, hgap'⟩, hgap, hrest⟩ := h
  exact ⟨c :: (part ++ ("name".toList ++ (gap' ++ [':']))), gap, rest, rfl, ⟨c :: part, gap', rfl, hgap'⟩, hgap, hrest⟩

theorem KeyedLast.of_parenthesis (h : KeyedLast ('(' :: inner)) : KeyedLast inner := by
  obtain ⟨found, gap, rest, hinner, hfound, hgap, hrest⟩ := h
  cases found with
  | nil => exact absurd rfl hfound.ne_nil
  | cons c found =>
    obtain ⟨rfl, rfl⟩ := List.cons.inj hinner
    exact ⟨found, gap, rest, rfl, hfound.of_cons (by decide) (by decide), hgap, hrest⟩

/-- steps that agree as `f` shows them, and lead on to results that agree as `g` shows them -/
theorem bind_eq_bind {α β γ δ : Type} {f : α → β} {g : γ → δ} {x y : Except LineError α} {k k' : α → Except LineError γ}
    (h : x.map f = y.map f) (hk : ∀ a b, f a = f b → (k a).map g = (k' b).map g) :
    (x >>= k).map g = (y >>= k').map g := by
  cases x with
  | error e =>
    cases y with
    | error e' => exact congrArg Except.error (Except.error.inj h)
    | ok b => cases h
  | ok a =>
    cases y with
    | error e' => cases h
    | ok b => exact hk a b (Except.ok.inj h)

/-- a clause is told, as it is compared, by the balance of its text and by its readers -/
theorem readClause_loosened (hbalanced : isBalanced a = isBalanced b)
    (hname : clauseName? (clauseArguments a) = clauseName? (clauseArguments b))
    (hlist : ∀ key, (bracketList key (clauseArguments a)).map (·.map loosenText) =
      (bracketList key (clauseArguments b)).map (·.map loosenText))
    (hvalue : ∀ key : String, IsWord key.toList → (keyValue? key (clauseArguments a)).map loosenText =
      (keyValue? key (clauseArguments b)).map loosenText) :
    (readClause a).map Clause.loosened = (readClause b).map Clause.loosened := by
  unfold readClause
  rw [hbalanced]
  split
  · refine bind_eq_bind (hlist .fields) fun fields fields' hfields =>
      bind_eq_bind (hlist .references) fun references references' hreferences => congrArg Except.ok ?_
    simp only [Clause.loosened, hname, hfields, hreferences, hvalue "onUpdate" isWord_onUpdate,
      hvalue "onDelete" isWord_onDelete]
  · rfl

theorem AtMark.parenthesis (h : AtMark inner tail) : AtMark ('(' :: inner) tail := by
  refine h.imp_left fun h c hc => ?_
  rw [List.getLast?_cons, Option.mem_def, Option.some.injEq] at hc
  cases hlast : inner.getLast? with
  | none =>
    rw [hlast] at hc
    rw [← hc]
    decide
  | some d =>
    rw [hlast] at hc
    exact hc ▸ h d hlast

/-- **A space next to a mark of a clause** leaves the clause as it is, unless it stands in front of a name without key
or in what is left over of a literal that ends with the key of the name. -/
theorem readClause_spaced (hne : tail ≠ []) (hhead : ∀ c ∈ tail.head?, isBlank c = false) (hat : AtMark inner tail)
    (hstart : inner = [] → tail.head? ≠ some '"') (hclosed : ∀ part, inner = '"' :: part → '"' ∈ part)
    (hkeyed : ¬KeyedLast inner) : (readClause (relationMarker ++ '(' :: (inner ++ ' ' :: tail))).map Clause.loosened =
      (readClause (relationMarker ++ '(' :: (inner ++ tail))).map Clause.loosened := by
  have hbalanced : isBalanced (relationMarker ++ '(' :: (inner ++ ' ' :: tail)) =
      isBalanced (relationMarker ++ '(' :: (inner ++ tail)) := by
    simpa using isBalanced_spaced (relationMarker ++ '(' :: inner) tail
  obtain ⟨lead, rest, hlead, hrest, htight, hspaced⟩ := clauseArguments_spaced inner hne hhead
  have hmark : AtMark lead rest := by
    have hinner := hat.part List.suffix_rfl hrest
    rcases hlead with rfl | rfl
    · exact hinner
    · exact hinner.parenthesis
  have hfirst : lead = [] → rest.head? ≠ some '"' := by
    intro hnil hquote
    obtain ⟨more, rfl⟩ := hrest
    rcases hlead with rfl | rfl
    · refine hstart hnil ?_
      rw [List.head?_append, hquote]
      rfl
    · cases hnil
  have hquotes : ∀ part, lead = '"' :: part → '"' ∈ part := by
    rintro part hpart
    rcases hlead with rfl | rfl
    · exact hclosed part hpart
    · exact absurd (List.cons.inj hpart).1 (by decide)
  have hkey : ¬KeyedLast lead := by
    rcases hlead with rfl | rfl
    · exact hkeyed
    · exact fun h => hkeyed h.of_parenthesis
  refine readClause_loosened hbalanced ?_ (fun key => ?_) fun key hkey => ?_
  · rw [htight, hspaced, clauseName?_spaced hmark hfirst hquotes hkey]
  · rw [htight, hspaced, bracketList_spaced key hmark]
  · rw [htight, hspaced, keyValue?_spaced hkey hmark]

/-- **A space in front of a name without key** hides the name and nothing else. -/
theorem readClause_unled (rest : List Char) :
    (readClause (relationMarker ++ '(' :: ' ' :: '"' :: rest)).map Clause.unnamed =
        (readClause (relationMarker ++ '(' :: '"' :: rest)).map Clause.unnamed ∧
      ∀ c, readClause (relationMarker ++ '(' :: ' ' :: '"' :: rest) = .ok c → ':' ∉ rest → c.name = none := by
  have hquote : ∀ c ∈ ('"' :: rest).head?, isBlank c = false := by
    rintro c ⟨⟩
    decide
  obtain ⟨lead, kept, hlead, hkept, htight, hspaced⟩ :=
    clauseArguments_spaced [] (List.cons_ne_nil '"' rest) hquote
  rw [List.nil_append] at htight hspaced
  have hcolon : ':' ∉ lead := by rcases hlead with rfl | rfl <;> decide
  constructor
  · refine readClause_unnamed ?_ fun key hkey => ?_
    · simpa using isBalanced_spaced (relationMarker ++ ['(']) ('"' :: rest)
    · have hmark : AtMark lead kept := by
        rcases hlead with rfl | rfl
        · exact Or.inl nofun
        · exact .of_getLast? (c := '(') rfl (by decide) kept
      rw [htight, hspaced]
      rcases afterKey?_spaced (isWord_valueKey hkey) hmark with hsame | ⟨found, value, rfl, hfound, -⟩
      · exact hsame
      · -- no key with its colon stands in front of the place
        obtain ⟨part, blanks, rfl, -⟩ := hfound
        exact absurd (by simp) hcolon
  · intro c hread hnone
    obtain ⟨-, fields, references, -, -, rfl⟩ := readClause_ok hread
    have hhead : (lead ++ ' ' :: kept).head? ≠ some '"' := by
      rcases hlead with rfl | rfl <;> simp
    have hcolon' : ':' ∉ lead ++ ' ' :: kept := by
      have hmem : ':' ∉ kept := fun hm => by
        rcases List.mem_cons.1 (hkept.subset hm) with heq | hm
        · exact absurd heq (by decide)
        · exact hnone hm
      simp [hcolon, hmem]
    simp only [hspaced, clauseName?, if_neg hhead, afterKey?, afterKeyFrom_none hcolon', Option.map_none]

end Clause

end EntityScaffold.Line

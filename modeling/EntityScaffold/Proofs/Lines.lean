import EntityScaffold.Text.Blank
import EntityScaffold.Text.Lines
import Mathlib.Data.List.TakeWhile
import Mathlib.Tactic

/-!
Trimming and lines. A text is its trimmed form with blanks around it (`trimEndWhile_append`,
`trimStart_append`), and trimming changes only a text with a blank at an end. Lines that hold no line feed
and end in no blank are read back from their joined text (`splitLines_joinLines`).
-/

namespace EntityScaffold.Text

/-! ## Joined texts -/

/-- a character of joined texts stands in one of them or in what joins them -/
theorem mem_intercalate {sep : List Char} {parts : List (List Char)} {c : Char} (h : c ∈ List.intercalate sep parts) :
    c ∈ sep ∨ ∃ part ∈ parts, c ∈ part := by
  induction parts with
  | nil => cases h
  | cons part parts ih =>
    cases parts with
    | nil => exact Or.inr ⟨part, List.mem_singleton_self _, by simpa [List.intercalate] using h⟩
    | cons next parts =>
      rw [List.intercalate_cons_cons, List.mem_append, List.mem_append] at h
      rcases h with (h | h) | h
      · exact Or.inr ⟨part, List.mem_cons_self, h⟩
      · exact Or.inl h
      · exact (ih h).imp_right fun ⟨other, hother, hc⟩ => ⟨other, List.mem_cons_of_mem _ hother, hc⟩

/-! ## The end of a text -/

theorem trimEndWhile_append_all (p : Char → Bool) (text : List Char) {tail : List Char} (h : ∀ c ∈ tail, p c = true) :
    trimEndWhile p (text ++ tail) = trimEndWhile p text := by
  induction text with
  | nil =>
    induction tail with
    | nil => rfl
    | cons c tail ih =>
      have htail := ih fun x hx => h x (List.mem_cons_of_mem _ hx)
      simp only [List.nil_append, trimEndWhile] at htail ⊢
      simp [htail, h c List.mem_cons_self]
  | cons c text ih => simp only [List.cons_append, trimEndWhile, ih]

theorem trimEndWhile_eq_self {p : Char → Bool} {text : List Char} (h : ∀ c, text.getLast? = some c → p c = false) :
    trimEndWhile p text = text := by
  induction text with
  | nil => rfl
  | cons c rest ih =>
    rw [trimEndWhile]
    cases rest with
    | nil => simp [trimEndWhile, h c rfl]
    | cons d rest => rw [ih fun x hx => h x (by rw [List.getLast?_cons_cons]; exact hx)]

theorem trimEndWhile_cons {p : Char → Bool} {c : Char} (h : p c = false) (rest : List Char) :
    trimEndWhile p (c :: rest) = c :: trimEndWhile p rest := by
  rw [trimEndWhile]
  split
  · next hrest => simp [h, hrest]
  · rfl

/-- what is cut off the end of a text has only characters of the class, what is kept ends in none of it -/
theorem trimEndWhile_append (p : Char → Bool) (text : List Char) : ∃ tail, text = trimEndWhile p text ++ tail ∧
    (∀ c ∈ tail, p c = true) ∧ ∀ c, (trimEndWhile p text).getLast? = some c → p c = false := by
  induction text with
  | nil => exact ⟨[], rfl, by simp, by simp [trimEndWhile]⟩
  | cons c rest ih =>
    obtain ⟨tail, hrest, htail, hlast⟩ := ih
    rw [trimEndWhile]
    cases hk : trimEndWhile p rest with
    | nil =>
      rw [hk, List.nil_append] at hrest
      by_cases hc : p c = true
      · refine ⟨c :: rest, by simp [hc], ?_, by simp [hc]⟩
        rw [hrest]
        simpa [hc] using htail
      · exact ⟨rest, by simp [hc], hrest ▸ htail, by simp [hc]⟩
    | cons d kept =>
      rw [hk] at hrest hlast
      exact ⟨tail, by rw [List.cons_append, ← hrest], htail, by rw [List.getLast?_cons_cons]; exact hlast⟩

theorem trimEnd_append_blanks (text : List Char) {tail : List Char} (h : ∀ c ∈ tail, isBlank c = true) :
    trimEnd (text ++ tail) = trimEnd text := trimEndWhile_append_all isBlank text h

/-- the text ends in no blank -/
def EndsTight (text : List Char) : Prop := ∀ c, text.getLast? = some c → isBlank c = false

theorem trimEnd_eq_self {text : List Char} (h : EndsTight text) : trimEnd text = text := trimEndWhile_eq_self h

theorem trimEnd_tight (text : List Char) : EndsTight (trimEnd text) := by
  obtain ⟨_, -, -, h⟩ := trimEndWhile_append isBlank text
  exact h

theorem trimEnd_append (text : List Char) : ∃ tail, text = trimEnd text ++ tail ∧ ∀ c ∈ tail, isBlank c = true := by
  obtain ⟨tail, h, htail, -⟩ := trimEndWhile_append isBlank text
  exact ⟨tail, h, htail⟩

theorem EndsTight.append {a b : List Char} (hb : EndsTight b) (hne : b ≠ []) : EndsTight (a ++ b) := by
  intro c hc
  rw [List.getLast?_append_of_ne_nil _ hne] at hc
  exact hb c hc

theorem EndsTight.suffix {a b : List Char} (h : EndsTight (a ++ b)) : EndsTight b := by
  intro c hc
  refine h c ?_
  rw [List.getLast?_append_of_ne_nil _ (by rintro rfl; cases hc), hc]

theorem space_blank : ∀ c ∈ [' '], isBlank c = true := List.forall_mem_singleton.2 (by decide)

/-! ## Both ends -/

theorem trimStart_append (text : List Char) : ∃ lead, text = lead ++ trimStart text ∧ ∀ c ∈ lead, isBlank c = true :=
  ⟨text.takeWhile isBlank, (List.takeWhile_append_dropWhile).symm, fun _ hc => List.mem_takeWhile_imp hc⟩

theorem trimStart_blanks_append {lead : List Char} (text : List Char) (h : ∀ c ∈ lead, isBlank c = true) :
    trimStart (lead ++ text) = trimStart text := by
  unfold trimStart
  rw [List.dropWhile_append_of_pos h]

theorem trimStart_eq_self {text : List Char} (h : ∀ c, text.head? = some c → isBlank c = false) :
    trimStart text = text := by
  cases text with
  | nil => rfl
  | cons c rest => simp [trimStart, h c rfl]

theorem trimStart_head (text : List Char) (c : Char) (h : (trimStart text).head? = some c) : isBlank c = false := by
  unfold trimStart at h
  cases hb : isBlank c with
  | false => rfl
  | true =>
    have := List.head?_dropWhile_not isBlank text
    simp [h, hb] at this

theorem trim_eq_self {text : List Char} (hstart : ∀ c, text.head? = some c → isBlank c = false)
    (hend : EndsTight text) : trim text = text := by
  rw [trim, trimStart_eq_self hstart, trimEnd_eq_self hend]

theorem trim_tight (text : List Char) : EndsTight (trim text) := trimEnd_tight _

theorem trim_head (text : List Char) (c : Char) (h : (trim text).head? = some c) : isBlank c = false := by
  obtain ⟨tail, htail, -⟩ := trimEnd_append (trimStart text)
  refine trimStart_head text c ?_
  rw [htail]
  unfold trim at h
  rw [List.head?_append, h]
  rfl

theorem trim_trim (text : List Char) : trim (trim text) = trim text := trim_eq_self (trim_head text) (trim_tight text)

theorem trim_blanks_append {lead : List Char} (text : List Char) (h : ∀ c ∈ lead, isBlank c = true) :
    trim (lead ++ text) = trim text := by
  rw [trim, trim, trimStart_blanks_append text h]

/-- a text is its trimmed form between blanks -/
theorem trim_append (text : List Char) : ∃ lead tail, text = lead ++ trim text ++ tail ∧
    (∀ c ∈ lead, isBlank c = true) ∧ ∀ c ∈ tail, isBlank c = true := by
  obtain ⟨lead, hlead, h1⟩ := trimStart_append text
  obtain ⟨tail, htail, h2⟩ := trimEnd_append (trimStart text)
  exact ⟨lead, tail, by rw [List.append_assoc, trim, ← htail, ← hlead], h1, h2⟩

theorem trim_append_blanks (text : List Char) {tail : List Char} (h : ∀ c ∈ tail, isBlank c = true) :
    trim (text ++ tail) = trim text := by
  obtain ⟨lead, hlead, h1⟩ := trimStart_append text
  cases hs : trimStart text with
  | nil =>
    -- nothing but blanks: both sides are empty
    rw [hs, List.append_nil] at hlead
    have hall : ∀ c ∈ text ++ tail, isBlank c = true := by
      intro c hc
      rcases List.mem_append.1 hc with hc | hc
      · exact h1 c (hlead ▸ hc)
      · exact h c hc
    have := trim_blanks_append [] hall
    have := trim_blanks_append [] (hlead ▸ h1)
    simp_all
  | cons c rest =>
    have hc : isBlank c = false := trimStart_head text c (by rw [hs]; rfl)
    rw [hlead, List.append_assoc, trim_blanks_append _ h1, trim_blanks_append _ h1, hs]
    rw [trim, trim, trimStart_eq_self (by simp [hc]), trimStart_eq_self (by simp [hc]), trimEnd_append_blanks _ h]

theorem trim_trimEnd (text : List Char) : trim (trimEnd text) = trim text := by
  obtain ⟨tail, h, htail⟩ := trimEnd_append text
  rw [← trim_append_blanks (trimEnd text) htail, ← h]

/-! ## Lines -/

/-- a text that can stand as a line of a document -/
def IsLine (text : List Char) : Prop := '\n' ∉ text ∧ EndsTight text

theorem splitLines_cons {c : Char} {rest : List Char} (h1 : c ≠ '\n') (h2 : c = '\r' → rest.head? ≠ some '\n') :
    splitLines (c :: rest) =
      match splitLines rest with
      | [] => [[c]]
      | line :: lines => (c :: line) :: lines := by
  refine splitLines.eq_4 c rest h1 ?_
  rintro tail hc rfl
  exact h2 hc rfl

theorem splitLines_append_newline {line : List Char} (h1 : '\n' ∉ line) (h2 : line.getLast? ≠ some '\r')
    (rest : List Char) : splitLines (line ++ '\n' :: rest) = line :: splitLines rest := by
  induction line with
  | nil => rfl
  | cons c line ih =>
    have hc : c ≠ '\n' := fun e => h1 (e ▸ List.mem_cons_self)
    rw [List.cons_append, splitLines_cons hc, ih (fun h => h1 (List.mem_cons_of_mem _ h))]
    · intro h
      cases line with
      | nil => cases h
      | cons d line => exact h2 (by rw [List.getLast?_cons_cons]; exact h)
    · rintro rfl
      cases line with
      | nil => exact absurd rfl h2
      | cons d line =>
        simp only [List.cons_append, List.head?_cons, ne_eq, Option.some.injEq]
        rintro rfl
        exact h1 (List.mem_cons_of_mem _ List.mem_cons_self)

/-- **Lines are read back.** Lines that hold no line feed and end in no blank are the lines of their joined text. -/
theorem splitLines_joinLines {lines : List (List Char)} (h : ∀ line ∈ lines, IsLine line) :
    splitLines (joinLines lines) = lines := by
  induction lines with
  | nil => rfl
  | cons line lines ih =>
    obtain ⟨h1, h2⟩ := h line List.mem_cons_self
    have h3 : line.getLast? ≠ some '\r' := fun e => absurd (h2 _ e) (by decide)
    have hj : joinLines (line :: lines) = line ++ '\n' :: joinLines lines := by simp [joinLines]
    rw [hj, splitLines_append_newline h1 h3, ih fun l hl => h l (List.mem_cons_of_mem _ hl)]

theorem splitLines_ne_nil (c : Char) (rest : List Char) : splitLines (c :: rest) ≠ [] := by
  unfold splitLines
  split
  · next h => cases h
  · exact List.cons_ne_nil _ _
  · exact List.cons_ne_nil _ _
  · split <;> exact List.cons_ne_nil _ _

/-- **Lines of joined texts.** A text that ends in a line feed has its lines before those of the text that follows. -/
theorem splitLines_append {a : List Char} (h : ∀ c ∈ a.getLast?, c = '\n') (b : List Char) :
    splitLines (a ++ b) = splitLines a ++ splitLines b := by
  have hrest : ∀ {c : Char} {rest : List Char},
      (∀ x ∈ (c :: rest).getLast?, x = '\n') → ∀ x ∈ rest.getLast?, x = '\n' := by
    intro c rest hlast x hx
    cases rest with
    | nil => cases hx
    | cons d rest => exact hlast x (by rwa [List.getLast?_cons_cons])
  fun_induction splitLines a with
  | case1 => rfl
  | case2 rest ih => rw [List.cons_append, splitLines, ih (hrest h), List.cons_append]
  | case3 rest ih => rw [List.cons_append, List.cons_append, splitLines, ih (hrest (hrest h)), List.cons_append]
  | case4 c rest h1 h2 hr ih =>
    -- the last character is no line feed
    cases rest with
    | nil => exact absurd (h c rfl) h1
    | cons d rest => exact absurd hr (splitLines_ne_nil d rest)
  | case5 c rest h1 h2 first lines hr ih =>
    cases rest with
    | nil => cases hr
    | cons d rest =>
      have hhead : c = '\r' → (d :: rest ++ b).head? ≠ some '\n' := by
        rintro hc hd
        exact h2 rest hc (by rw [Option.some.inj hd])
      rw [List.cons_append, splitLines_cons h1 hhead, ih (hrest h), hr]
      rfl

theorem newline_not_mem_splitLines (text : List Char) : ∀ line ∈ splitLines text, '\n' ∉ line := by
  fun_induction splitLines text with
  | case1 => simp
  | case2 rest ih => simpa using ih
  | case3 rest ih => simpa using ih
  | case4 c rest h1 h2 hr ih =>
    intro line hline
    rw [List.mem_singleton.1 hline, List.mem_singleton]
    rintro rfl
    exact h1 rfl
  | case5 c rest h1 h2 first lines hr ih =>
    rw [hr] at ih
    intro line hline
    rcases List.mem_cons.1 hline with rfl | hline
    · intro hm
      rcases List.mem_cons.1 hm with rfl | hm
      · exact h1 rfl
      · exact ih first List.mem_cons_self hm
    · exact ih line (List.mem_cons_of_mem _ hline)

end EntityScaffold.Text

import EntityScaffold.Proofs.Offset
import EntityScaffold.Proofs.Spelling

/-!
Plurals by offsets. The last word of an identifier starts at an offset of the identifier, and a split there has an
outcome (`cutPlural_eq`). The stem of the word is another matter: its length is that of the lower-case form, and lower
case can take more bytes or fewer. Where it takes as many for every letter there is a plural (`plural_isSome`), as for
all identifiers of ASCII.
-/

namespace EntityScaffold.Text

/-! ## The last word -/

/-- the offset of the last upper-case letter, of a text that starts at offset `i` -/
def lastUpperOffset? : Nat → List Char → Option Nat
  | _, [] => none
  | i, c :: rest => (lastUpperOffset? (i + c.utf8Size) rest).or (if isUpper c then some i else none)

/-- the offset of the last word: the last upper-case letter after the first character, or the start -/
def lastWordOffset : List Char → Nat
  | [] => 0
  | c :: rest => (lastUpperOffset? c.utf8Size rest).getD 0

/-- the plural of an identifier that is split at the offset of its last word -/
def cutPlural (text : List Char) : Option (List Char) := do
  let head ← takeBytes (lastWordOffset text) text
  let word ← dropBytes (lastWordOffset text) text
  let plural ← pluralWord word
  some (head ++ plural)

theorem lastUpperOffset?_eq (i : Nat) (text : List Char) :
    lastUpperOffset? i text = (splitLastUpper text).map fun p => i + byteCount p.1 := by
  induction text generalizing i with
  | nil => rfl
  | cons c rest ih =>
    rw [lastUpperOffset?, ih, splitLastUpper]
    cases splitLastUpper rest with
    | none => by_cases hc : isUpper c = true <;> simp [hc]
    | some p => simp [Nat.add_assoc]

/-- the last word starts behind the words before it -/
theorem lastWordOffset_eq (text : List Char) : lastWordOffset text = byteCount (splitLastWord text).1 := by
  cases text with
  | nil => rfl
  | cons c rest =>
    rw [lastWordOffset, lastUpperOffset?_eq, splitLastWord]
    cases splitLastUpper rest <;> rfl

/-- **An identifier is split** between two characters, whatever it holds. -/
theorem cutPlural_eq (text : List Char) : cutPlural text = plural text := by
  have hsplit := splitLastWord_append text
  have hhead := takeBytes_append (splitLastWord text).1 (splitLastWord text).2
  have hword := dropBytes_append (splitLastWord text).1 (splitLastWord text).2
  rw [hsplit, ← lastWordOffset_eq] at hhead hword
  unfold cutPlural plural
  rw [hhead, hword]
  simp only [Option.bind_eq_bind, Option.bind_some]
  cases pluralWord (splitLastWord text).2 <;> rfl

/-! ## Stems -/

/-- lower case keeps the letter in number and in bytes -/
def KeepsBytes (c : Char) : Prop := ∃ d, toLower c = [d] ∧ d.utf8Size = c.utf8Size

theorem keepsBytes_ascii {c : Char} (h : isAscii c = true) : KeepsBytes c := by
  exact ⟨c.toLower, of_ascii (p := fun c => toLower c = [c.toLower] ∧ c.toLower.utf8Size = c.utf8Size)
    (by decide +kernel) h⟩

/-- a text and its lower case have the same number of bytes, letter by letter -/
theorem lowerAfter_bytes {text : List Char} (h : ∀ c ∈ text, KeepsBytes c) (before : List Char) :
    List.Forall₂ (fun c d => d.utf8Size = c.utf8Size) text (lowerAfter before text) := by
  induction text generalizing before with
  | nil => exact .nil
  | cons c rest ih =>
    have hrest := ih (fun x hx => h x (List.mem_cons_of_mem _ hx)) (c :: before)
    rw [lowerAfter]
    split
    · next hc =>
      -- both forms of the small sigma have as many bytes as the capital one
      subst hc
      refine .cons ?_ hrest
      split <;> decide
    · obtain ⟨d, hd, hsize⟩ := h c List.mem_cons_self
      rw [hd]
      exact .cons hsize hrest

theorem byteCount_take {text lower : List Char} (h : List.Forall₂ (fun c d => d.utf8Size = c.utf8Size) text lower)
    (n : Nat) : byteCount (lower.take n) = byteCount (text.take n) := by
  induction h generalizing n with
  | nil => rfl
  | cons hsize _ ih =>
    cases n with
    | zero => rfl
    | succ n => rw [List.take_succ_cons, List.take_succ_cons, byteCount_cons, byteCount_cons, hsize, ih]

theorem stemBefore_isSome {word : List Char} (h : ∀ c ∈ word, KeepsBytes c) (ending : String) :
    (stemBefore word (lowerText word) ending).isSome = true := by
  unfold stemBefore lowerText
  rw [byteCount_take (lowerAfter_bytes h [])]
  generalize (lowerAfter [] word).length - ending.length = n
  nth_rewrite 2 [← List.take_append_drop n word]
  rw [takeBytes_append]
  rfl

/-- **There is a plural** where lower case keeps the bytes of every letter. -/
theorem plural_isSome {text : List Char} (h : ∀ c ∈ text, KeepsBytes c) : (plural text).isSome = true := by
  have hword : ∀ c ∈ (splitLastWord text).2, KeepsBytes c := fun c hc =>
    h c (splitLastWord_append text ▸ List.mem_append_right _ hc)
  have hbyEnding : (pluralByEnding (splitLastWord text).2 (lowerText (splitLastWord text).2)).isSome = true := by
    unfold pluralByEnding
    split_ifs
    · rfl
    · rw [Option.isSome_map, stemBefore_isSome hword]
    · rfl
    · rw [Option.isSome_map, stemBefore_isSome hword]
    · rfl
  unfold plural
  rw [Option.isSome_map]
  unfold pluralWord
  dsimp only
  split
  · rfl
  · split
    · rfl
    · rfl
    · exact hbyEnding

theorem isAscii_upperFirst {text : List Char} (h : ∀ c ∈ text, isAscii c = true) :
    ∀ c ∈ upperFirst text, isAscii c = true := by
  cases text with
  | nil => exact h
  | cons first rest =>
    have hfirst := List.all_eq_true.1 (of_ascii (p := fun c => (toUpper c).all isAscii = true) (by decide +kernel)
      (h first List.mem_cons_self))
    intro c hc
    rw [upperFirst] at hc
    rcases List.mem_append.1 hc with hc | hc
    · exact hfirst c hc
    · exact h c (List.mem_cons_of_mem _ hc)

end EntityScaffold.Text

namespace EntityScaffold

/-- every letter of a name is one of ASCII -/
def IsPlainName (name : String) : Prop := ∀ c ∈ name.toList, Text.isAscii c = true

theorem IsPlainName.spelled {name : String} (h : IsPlainName name) :
    (Names.of? name).isSome = true ∧ (resourceName? name).isSome = true := by
  have hupper := Text.plural_isSome fun c hc => Text.keepsBytes_ascii (Text.isAscii_upperFirst h c hc)
  have hown := Text.plural_isSome fun c hc => Text.keepsBytes_ascii (h c hc)
  exact ⟨by rw [Names.of?, Option.isSome_map, hupper], by rw [resourceName?, Option.isSome_map, hown]⟩

end EntityScaffold

import EntityScaffold.Proofs.ClauseScan

/-!
The arguments of a clause. Each is its key, a colon and its value (`ArgumentKey.argument`), the name also a quoted text
alone. The search for a key goes through the arguments with other keys, so each value is found wherever its argument
stands (`Clause.SpelledBy.found`), and a clause whose parts cannot be taken for something else is read back from its
arguments in any order (`readClause_anyOrder`).
-/

namespace EntityScaffold.Line

open Text

/-! ## Arguments as written -/

def nameArgument (name : Option String) : List (List Char) := (name.map fun n => '"' :: (n.toList ++ ['"'])).toList

theorem arguments_eq (c : Clause) : c.arguments = nameArgument c.name ++ listArgument .fields c.fields ++
    listArgument .references c.references ++ valueArgument "onDelete" c.restrictions.onDelete ++
    valueArgument "onUpdate" c.restrictions.onUpdate := rfl

theorem mem_listArgument {key : ListKey} {names : List String} {a : List Char} : a ∈ listArgument key names ↔
    names ≠ [] ∧ a = key.word.toList ++ ':' :: ' ' :: '[' ::
      (List.intercalate ", ".toList (names.map String.toList) ++ [']']) := by
  have hopen : ": [".toList = [':', ' ', '['] := by decide
  unfold listArgument
  split <;> simp_all

theorem mem_valueArgument {key : String} {value : Option String} {a : List Char} : a ∈ valueArgument key value ↔
    ∃ v, value = some v ∧ a = key.toList ++ ':' :: ' ' :: v.toList := by
  have hopen : ": ".toList = [':', ' '] := by decide
  cases value <;> simp [valueArgument, hopen]

theorem mem_nameArgument {name : Option String} {a : List Char} : a ∈ nameArgument name ↔
    ∃ n, name = some n ∧ a = '"' :: (n.toList ++ ['"']) := by
  cases name <;> simp [nameArgument]

def clauseOf : List (List Char) → List Char
  | [] => relationMarker
  | args => relationMarker ++ '(' :: (List.intercalate ", ".toList args ++ [')'])

theorem clauseOf_of_ne_nil {args : List (List Char)} (h : args ≠ []) :
    clauseOf args = relationMarker ++ '(' :: (List.intercalate ", ".toList args ++ [')']) := by
  obtain ⟨a, args, rfl⟩ := List.exists_cons_of_ne_nil h
  rfl

theorem written_eq_clauseOf (c : Clause) : c.written = clauseOf c.arguments := by
  unfold Clause.written clauseOf
  cases c.arguments <;> rfl

/-! ## Keys and values -/

/-- the keys of the arguments of a clause -/
inductive ArgumentKey
  | name
  | list (key : ListKey)
  | onDelete
  | onUpdate
deriving DecidableEq, Repr

namespace ArgumentKey

def word : ArgumentKey → String
  | .name => "name"
  | .list key => key.word
  | .onDelete => "onDelete"
  | .onUpdate => "onUpdate"

theorem isWord : ∀ key : ArgumentKey, IsWord key.word.toList
  | .name => isWord_name
  | .list key => isWord_key key
  | .onDelete => isWord_onDelete
  | .onUpdate => isWord_onUpdate

theorem word_ne {key other : ArgumentKey} (h : key ≠ other) : key.word.toList ≠ other.word.toList := by
  have hlists : ∀ a b : ListKey, a ≠ b → a.word.toList ≠ b.word.toList := by
    intro a b
    cases a <;> cases b <;> decide
  rcases key with _ | a | _ | _ <;> rcases other with _ | b | _ | _ <;>
    first
      | exact absurd rfl h
      | exact hlists a b fun heq => h (congrArg list heq)
      | (cases a <;> decide)
      | (cases b <;> decide)
      | decide

def argument (key : ArgumentKey) (value : List Char) : List Char := key.word.toList ++ ':' :: ' ' :: value

end ArgumentKey

def listValue (names : List String) : List Char :=
  '[' :: (List.intercalate ", ".toList (names.map String.toList) ++ [']'])

namespace Clause

variable {c : Clause} {args : List (List Char)}

def names (c : Clause) : ListKey → List String
  | .fields => c.fields
  | .references => c.references

/-- the value of an argument as written; none when the clause has no argument with the key -/
def value? (c : Clause) : ArgumentKey → Option (List Char)
  | .name => c.name.map fun n => '"' :: (n.toList ++ ['"'])
  | .list key => if c.names key = [] then none else some (listValue (c.names key))
  | .onDelete => c.restrictions.onDelete.map String.toList
  | .onUpdate => c.restrictions.onUpdate.map String.toList

theorem value?_list {key : ListKey} {value : List Char} :
    c.value? (.list key) = some value ↔ c.names key ≠ [] ∧ listValue (c.names key) = value := by
  rw [value?]
  split <;> simp_all

/-- an argument of a clause: its value behind its key, or the name alone -/
inductive IsArgument (c : Clause) : ArgumentKey → List Char → Prop
  | keyed {key : ArgumentKey} {value : List Char} (h : c.value? key = some value) :
      c.IsArgument key (key.argument value)
  | quoted {value : List Char} (h : c.value? .name = some value) : c.IsArgument .name value

/-- the arguments of a clause that are written with their keys: all but the name -/
def keyedArguments (c : Clause) : List (List Char) :=
  listArgument .fields c.fields ++ listArgument .references c.references ++
    valueArgument "onDelete" c.restrictions.onDelete ++ valueArgument "onUpdate" c.restrictions.onUpdate

theorem arguments_eq_keyed (c : Clause) : c.arguments = nameArgument c.name ++ c.keyedArguments := by
  rw [arguments_eq, keyedArguments]
  simp only [List.append_assoc]

theorem mem_keyedArguments {a : List Char} :
    a ∈ c.keyedArguments ↔ ∃ key value, key ≠ .name ∧ c.value? key = some value ∧ a = key.argument value := by
  simp only [keyedArguments, List.mem_append, mem_listArgument, mem_valueArgument]
  constructor
  · rintro (((⟨hne, rfl⟩ | ⟨hne, rfl⟩) | ⟨v, hv, rfl⟩) | ⟨v, hv, rfl⟩)
    · exact ⟨.list .fields, _, nofun, if_neg hne, rfl⟩
    · exact ⟨.list .references, _, nofun, if_neg hne, rfl⟩
    · exact ⟨.onDelete, _, nofun, Option.map_eq_some_iff.2 ⟨v, hv, rfl⟩, rfl⟩
    · exact ⟨.onUpdate, _, nofun, Option.map_eq_some_iff.2 ⟨v, hv, rfl⟩, rfl⟩
  · rintro ⟨key, value, hname, hvalue, rfl⟩
    match key, hname, hvalue with
    | .list .fields, _, hvalue =>
      obtain ⟨hne, rfl⟩ := value?_list.1 hvalue
      exact Or.inl (Or.inl (Or.inl ⟨hne, rfl⟩))
    | .list .references, _, hvalue =>
      obtain ⟨hne, rfl⟩ := value?_list.1 hvalue
      exact Or.inl (Or.inl (Or.inr ⟨hne, rfl⟩))
    | .onDelete, _, hvalue =>
      obtain ⟨v, hv, rfl⟩ := Option.map_eq_some_iff.1 hvalue
      exact Or.inl (Or.inr ⟨v, hv, rfl⟩)
    | .onUpdate, _, hvalue =>
      obtain ⟨v, hv, rfl⟩ := Option.map_eq_some_iff.1 hvalue
      exact Or.inr ⟨v, hv, rfl⟩

/-! ## Clauses that can be read back -/

/-- a clause whose parts cannot be taken for something else: lists and actions of identifiers, and a name in which no
quote ends it and no colon follows a key -/
structure Clear (c : Clause) : Prop where
  name : ∀ n, c.name = some n → '"' ∉ n.toList ∧ ':' ∉ n.toList
  fields : ∀ n ∈ c.fields, isIdentifier n.toList = true
  references : ∀ n ∈ c.references, isIdentifier n.toList = true
  onDelete : ∀ v, c.restrictions.onDelete = some v → isIdentifier v.toList = true
  onUpdate : ∀ v, c.restrictions.onUpdate = some v → isIdentifier v.toList = true

theorem Clear.names (h : c.Clear) (key : ListKey) : ∀ n ∈ c.names key, IsWord n.toList := by
  cases key with
  | fields => exact fun n hn => isWord_of_isIdentifier (h.fields n hn)
  | references => exact fun n hn => isWord_of_isIdentifier (h.references n hn)

/-- a value is a quoted name, a list of words or a word -/
theorem Clear.value (h : c.Clear) {P : List Char → Prop}
    (hname : ∀ text, '"' ∉ text → ':' ∉ text → P ('"' :: (text ++ ['"'])))
    (hlist : ∀ names : List String, (∀ n ∈ names, IsWord n.toList) → P (listValue names))
    (hword : ∀ text, IsWord text → P text) {key : ArgumentKey} {value : List Char}
    (hvalue : c.value? key = some value) : P value := by
  cases key with
  | name =>
    obtain ⟨n, hn, rfl⟩ := Option.map_eq_some_iff.1 hvalue
    exact hname _ (h.name n hn).1 (h.name n hn).2
  | list key =>
    obtain ⟨-, rfl⟩ := value?_list.1 hvalue
    exact hlist _ (h.names key)
  | onDelete =>
    obtain ⟨v, hv, rfl⟩ := Option.map_eq_some_iff.1 hvalue
    exact hword _ (isWord_of_isIdentifier (h.onDelete v hv))
  | onUpdate =>
    obtain ⟨v, hv, rfl⟩ := Option.map_eq_some_iff.1 hvalue
    exact hword _ (isWord_of_isIdentifier (h.onUpdate v hv))

end Clause

theorem joined_names {names : List String} (h : ∀ n ∈ names, IsWord n.toList) {d : Char} (hword : isWordChar d = false)
    (hd : d ∉ ", ".toList) : d ∉ List.intercalate ", ".toList (names.map String.toList) := by
  intro hm
  rcases mem_intercalate hm with hm | ⟨part, hpart, hm⟩
  · exact hd hm
  · obtain ⟨n, hn, rfl⟩ := List.mem_map.1 hpart
    exact (h n hn).not_mem hword hm

namespace Clause

variable {c : Clause} {args : List (List Char)}

theorem Clear.value_colon (h : c.Clear) {key : ArgumentKey} {value : List Char} (hvalue : c.value? key = some value) :
    ':' ∉ value := by
  refine h.value (P := fun text => ':' ∉ text) (fun text _ hcolon => ?_) (fun names hnames => ?_) ?_ hvalue
  · simpa using hcolon
  · have hjoined := joined_names hnames (d := ':') (by decide) (by decide)
    simpa [listValue] using hjoined
  · exact fun text hword => hword.not_mem (by decide)

/-- brackets are closed within a value -/
theorem Clear.value_balanced (h : c.Clear) {key : ArgumentKey} {value : List Char}
    (hvalue : c.value? key = some value) : Balanced value := by
  refine h.value (fun text hquote _ => balanced_quoted hquote) (fun names hnames => ?_)
    (fun text hword => hword.even.balanced) hvalue
  have hparts : ∀ part ∈ names.map String.toList, Balanced part := by
    intro part hpart
    obtain ⟨n, hn, rfl⟩ := List.mem_map.1 hpart
    exact (hnames n hn).even.balanced
  exact (balanced_intercalate hparts).brackets

theorem IsArgument.balanced {key : ArgumentKey} {a : List Char} (ha : c.IsArgument key a) (h : c.Clear) :
    Balanced a := by
  cases ha with
  | keyed hvalue =>
    have hcolon : Balanced [':', ' '] := balanced_inert (by simp [IsInert])
    have hall := (key.isWord.even.balanced.append hcolon).append (h.value_balanced hvalue)
    simpa [ArgumentKey.argument] using hall
  | quoted hvalue => exact h.value_balanced hvalue

/-- the search for a key goes through an argument with another key, and through the name alone -/
theorem IsArgument.passes {key other : ArgumentKey} {a : List Char} (ha : c.IsArgument other a) (h : c.Clear)
    (hne : a ∉ (c.value? key).map key.argument) : Passes key.word.toList a := by
  cases ha with
  | keyed hvalue =>
    have hother : other ≠ key := by
      rintro rfl
      exact hne (Option.mem_def.2 (by rw [hvalue, Option.map_some]))
    have hcolon := h.value_colon hvalue
    exact passes_other key.isWord other.isWord (ArgumentKey.word_ne hother) (by simpa using hcolon)
  | quoted hvalue =>
    obtain ⟨n, hn, rfl⟩ := Option.map_eq_some_iff.1 hvalue
    exact passes_quoted key.isWord (h.name n hn).2

/-- arguments that spell a clause out: none but its own, none of them wanting, and the name first in quotes or behind
its key -/
structure SpelledBy (c : Clause) (args : List (List Char)) : Prop where
  own : ∀ a ∈ args, ∃ key, c.IsArgument key a
  keyed : ∀ key value, key ≠ .name → c.value? key = some value → key.argument value ∈ args
  named : ∀ value, c.value? .name = some value →
    args.head? = some value ∨ ArgumentKey.name.argument value ∈ args ∧ value ∉ args

namespace SpelledBy

theorem found (h : c.SpelledBy args) (hc : c.Clear) {key : ArgumentKey} {value : List Char}
    (hvalue : c.value? key = some value) (hmem : key.argument value ∈ args) : ∃ tail, IsRest tail ∧
      afterKey? key.word (List.intercalate ", ".toList args) = some (' ' :: (value ++ tail)) := by
  obtain ⟨lead, others, rfl, hfirst⟩ := List.eq_append_cons_of_mem hmem
  have hlead : ∀ a ∈ lead, Passes key.word.toList a := by
    intro a ha
    obtain ⟨other, hargument⟩ := h.own a (List.mem_append_left _ ha)
    refine hargument.passes hc fun hsame => hfirst ?_
    rw [hvalue] at hsame
    exact Option.some.inj hsame ▸ ha
  exact afterKeyFrom_arguments_found key.isWord hlead none rfl (' ' :: value) others

theorem missing (h : c.SpelledBy args) (hc : c.Clear) (key : ArgumentKey) (hnone : c.value? key = none) :
    afterKey? key.word (List.intercalate ", ".toList args) = none := by
  refine afterKeyFrom_arguments_none key.isWord (fun a ha => ?_) none
  obtain ⟨other, hargument⟩ := h.own a ha
  exact hargument.passes hc (by simp [hnone])

end SpelledBy

end Clause

/-! ## Values read back -/

theorem trim_word {text : List Char} (h : IsWord text) : trim text = text :=
  trim_eq_self (fun c hc => blank_of_wordChar (h.chars c (List.mem_of_head? hc)))
    fun c hc => blank_of_wordChar (h.chars c (List.mem_of_getLast? hc))

theorem listEntries_word {text : List Char} (h : IsWord text) : listEntries text = [String.ofList text] := by
  have hsplit : text.splitOn ',' = [text] := List.splitOn_eq_singleton (h.not_mem (by decide))
  simp [listEntries, hsplit, trim_word h, h.nonempty]

theorem listEntries_word_comma {text : List Char} (h : IsWord text) (rest : List Char) :
    listEntries (text ++ ',' :: rest) = String.ofList text :: listEntries rest := by
  have hsplit : (text ++ ',' :: rest).splitOn ',' = text :: rest.splitOn ',' := by
    refine List.splitOnP_append_cons_of_forall_mem (fun c hc => ?_) ',' (by decide) rest
    simpa using ne_of_wordChar (h.chars c hc) (by decide)
  simp [listEntries, hsplit, trim_word h, h.nonempty]

theorem listEntries_space (text : List Char) : listEntries (' ' :: text) = listEntries text := by
  have hspace : ∀ part, trim (' ' :: part) = trim part := fun part => trim_blanks_append part space_blank
  obtain ⟨first, rest, hsplit⟩ := List.exists_cons_of_ne_nil (List.splitOn_ne_nil ',' text)
  have hhead : (' ' :: text).splitOn ',' = (' ' :: first) :: rest := by
    rw [List.splitOn_cons_eq_if_modifyHead, if_neg (by decide), hsplit]
    rfl
  unfold listEntries
  rw [hhead, hsplit, List.map_cons, List.map_cons, hspace]

/-- names are read back from their list -/
theorem listEntries_names {names : List String} (h : ∀ n ∈ names, IsWord n.toList) :
    listEntries (List.intercalate ", ".toList (names.map String.toList)) = names := by
  induction names with
  | nil => decide
  | cons n names ih =>
    have hn := h n List.mem_cons_self
    have hrest := ih fun x hx => h x (List.mem_cons_of_mem _ hx)
    cases names with
    | nil => simpa [List.intercalate] using listEntries_word hn
    | cons m names =>
      have hsep : ", ".toList = [',', ' '] := by decide
      rw [List.map_cons, List.map_cons, List.intercalate_cons_cons, ← List.map_cons, hsep, List.append_assoc]
      simp only [List.cons_append, List.nil_append]
      rw [listEntries_word_comma hn, listEntries_space, ← hsep, hrest, String.ofList_toList]

theorem upTo?_append {d : Char} {text : List Char} (h : d ∉ text) (rest : List Char) :
    upTo? d (text ++ d :: rest) = some text := by
  have htake : (text ++ d :: rest).takeWhile (· ≠ d) = text := by
    rw [List.takeWhile_append_of_pos fun c hc => by simpa using fun e : c = d => h (e ▸ hc)]
    simp
  rw [upTo?, if_pos (by simp), htake]

theorem upTo?_split {d : Char} {text part : List Char} (h : upTo? d text = some part) :
    d ∉ part ∧ ∃ rest, text = part ++ d :: rest := by
  have hmem : d ∈ text := by
    by_contra hd
    rw [upTo?, if_neg (by simpa using hd)] at h
    cases h
  obtain ⟨lead, rest, rfl, hlead⟩ := List.eq_append_cons_of_mem hmem
  rw [upTo?_append hlead] at h
  obtain rfl := Option.some.inj h
  exact ⟨hlead, rest, rfl⟩

/-! Each reader takes the value that follows the first place of its key. -/

theorem trimStart_gap {gap : List Char} (hgap : ∀ c ∈ gap, isBlank c = true) {c : Char} (hc : isBlank c = false)
    (rest : List Char) : trimStart (gap ++ c :: rest) = c :: rest := by
  rw [trimStart_blanks_append _ hgap, trimStart_eq_self (by simpa using hc)]

section Keyed

variable {args : List Char}

theorem clauseName?_quoted {name rest : List Char} (h : '"' ∉ name) (hargs : args = '"' :: (name ++ '"' :: rest)) :
    clauseName? args = some (String.ofList name) := by
  subst hargs
  simp [clauseName?, upTo?_append h]

theorem clauseName?_keyed {gap name rest : List Char} (hhead : args.head? ≠ some '"')
    (h : Keyed "name".toList args (gap ++ '"' :: (name ++ '"' :: rest))) (hgap : ∀ c ∈ gap, isBlank c = true)
    (hname : '"' ∉ name) : clauseName? args = some (String.ofList name) := by
  unfold clauseName?
  rw [if_neg hhead, (afterKey?_eq_some (by decide)).2 h, Option.map_some, trimStart_gap hgap (by decide)]
  simp [upTo?_append hname]

theorem bracketList_keyed {key : ListKey} {gap text rest : List Char}
    (h : Keyed key.word.toList args (gap ++ '[' :: (text ++ ']' :: rest))) (hgap : ∀ c ∈ gap, isBlank c = true)
    (htext : ']' ∉ text) : bracketList key args = .ok (listEntries text) := by
  unfold bracketList
  rw [(afterKey?_eq_some (isWord_key key).nonempty).2 h]
  simp only [trimStart_gap hgap (by decide : isBlank '[' = false), upTo?_append htext]

theorem keyValue?_keyed {key : String} (hkey : key.toList ≠ []) {value : List Char} (h : Keyed key.toList args value)
    (hvalue : trim (value.takeWhile fun c => c ≠ ',' && c ≠ ')') ≠ []) :
    keyValue? key args = some (String.ofList (trim (value.takeWhile fun c => c ≠ ',' && c ≠ ')'))) := by
  unfold keyValue?
  rw [(afterKey?_eq_some hkey).2 h, Option.bind_some]
  split
  · next hnil => exact absurd hnil hvalue
  · rfl

theorem keyValue?_word {key : String} (hkey : key.toList ≠ []) {word tail : List Char} (hword : IsWord word)
    (htail : IsRest tail) (h : afterKey? key args = some (' ' :: (word ++ tail))) :
    keyValue? key args = some (String.ofList word) := by
  have hstop : ∀ c ∈ ' ' :: word, (decide (c ≠ ',') && decide (c ≠ ')')) = true := by
    intro c hc
    rcases List.mem_cons.1 hc with rfl | hc
    · decide
    · have hchar := hword.chars c hc
      simp [ne_of_wordChar hchar (d := ',') (by decide), ne_of_wordChar hchar (d := ')') (by decide)]
  have htake : (' ' :: (word ++ tail)).takeWhile (fun c => c ≠ ',' && c ≠ ')') = ' ' :: word := by
    rw [← List.cons_append, List.takeWhile_append_of_pos hstop]
    rcases htail with rfl | ⟨rest, rfl⟩ <;> simp
  have htrim : trim (' ' :: word) = word := (trim_blanks_append word space_blank).trans (trim_word hword)
  have hne : trim ((' ' :: (word ++ tail)).takeWhile fun c => c ≠ ',' && c ≠ ')') ≠ [] := by
    rw [htake, htrim]
    exact hword.nonempty
  rw [keyValue?_keyed hkey ((afterKey?_eq_some hkey).1 h) hne, htake, htrim]

end Keyed

namespace Clause.SpelledBy

variable {c : Clause} {args : List (List Char)}

theorem bracketList (h : c.SpelledBy args) (hc : c.Clear) (key : ListKey) :
    Line.bracketList key (List.intercalate ", ".toList args) = .ok (c.names key) := by
  by_cases hnil : c.names key = []
  · have hmissing := h.missing hc (.list key) (if_pos hnil)
    simp only [ArgumentKey.word] at hmissing
    rw [Line.bracketList, hmissing, hnil]
  · have hvalue : c.value? (.list key) = some (listValue (c.names key)) := if_neg hnil
    obtain ⟨tail, -, hfound⟩ := h.found hc hvalue (h.keyed _ _ nofun hvalue)
    have hclose := joined_names (hc.names key) (d := ']') (by decide) (by decide)
    have hkeyed := (afterKey?_eq_some (isWord_key key).nonempty).1 hfound
    simp only [listValue, List.cons_append, List.append_assoc, List.nil_append] at hkeyed
    rw [@bracketList_keyed _ key [' '] _ tail hkeyed space_blank hclose, listEntries_names (hc.names key)]

theorem keyValue? (h : c.SpelledBy args) (hc : c.Clear) (key : ArgumentKey) (hkey : key ≠ .name) {value : Option String}
    (hvalue : c.value? key = value.map String.toList) (hword : ∀ v, value = some v → IsWord v.toList) :
    Line.keyValue? key.word (List.intercalate ", ".toList args) = value := by
  cases value with
  | none =>
    rw [Line.keyValue?, h.missing hc key hvalue]
    rfl
  | some v =>
    obtain ⟨tail, htail, hfound⟩ := h.found hc hvalue (h.keyed _ _ hkey hvalue)
    rw [keyValue?_word key.isWord.nonempty (hword v rfl) htail hfound, String.ofList_toList]

/-- an argument that is not the name alone starts with a word -/
theorem head_ne_quote (h : c.SpelledBy args) (hname : ∀ value, c.value? .name = some value → value ∉ args) :
    (List.intercalate ", ".toList args).head? ≠ some '"' := by
  cases args with
  | nil => exact nofun
  | cons a args =>
    obtain ⟨tail, -, hjoin⟩ := intercalate_cons a args
    obtain ⟨key, hargument⟩ := h.own a List.mem_cons_self
    rw [hjoin]
    cases hargument with
    | keyed hvalue =>
      obtain ⟨d, more, hword⟩ := List.exists_cons_of_ne_nil key.isWord.nonempty
      rw [ArgumentKey.argument, hword]
      intro hd
      exact ne_of_wordChar (key.isWord.chars d (hword ▸ List.mem_cons_self)) (by decide) (Option.some.inj hd)
    | quoted hvalue => exact absurd List.mem_cons_self (hname a hvalue)

theorem clauseName? (h : c.SpelledBy args) (hc : c.Clear) :
    Line.clauseName? (List.intercalate ", ".toList args) = c.name := by
  cases hn : c.name with
  | none =>
    have hnone : c.value? .name = none := by rw [value?, hn]; rfl
    have hhead := h.head_ne_quote (by simp [hnone])
    have hmissing := h.missing hc .name hnone
    simp only [ArgumentKey.word] at hmissing
    rw [Line.clauseName?, if_neg hhead, hmissing]
    rfl
  | some n =>
    have hvalue : c.value? .name = some ('"' :: (n.toList ++ ['"'])) := by rw [value?, hn]; rfl
    rcases h.named _ hvalue with hfirst | ⟨hmem, habsent⟩
    · obtain ⟨others, rfl⟩ := List.head?_eq_some_iff.1 hfirst
      obtain ⟨tail, -, hjoin⟩ := intercalate_cons ('"' :: (n.toList ++ ['"'])) others
      have hquoted : '"' :: (n.toList ++ ['"']) ++ tail = '"' :: (n.toList ++ '"' :: tail) := by simp
      rw [hjoin, clauseName?_quoted (hc.name n hn).1 hquoted, String.ofList_toList]
    · have hhead := h.head_ne_quote fun value hother => by
        obtain rfl := Option.some.inj (hvalue.symm.trans hother)
        exact habsent
      obtain ⟨tail, -, hfound⟩ := h.found hc hvalue hmem
      have hkeyed := (afterKey?_eq_some ArgumentKey.name.isWord.nonempty).1 hfound
      simp only [List.cons_append, List.append_assoc, List.nil_append] at hkeyed
      rw [@clauseName?_keyed _ [' '] _ tail hhead hkeyed space_blank (hc.name n hn).1, String.ofList_toList]

end Clause.SpelledBy

/-! ## The clause read back -/

theorem isPrefixOf?_relationMarker (text : List Char) :
    relationMarker.isPrefixOf? (relationMarker ++ text) = some text :=
  List.isPrefixOf?_eq_some_iff_append_eq.2 rfl

theorem isSuffixOf?_concat (text : List Char) (c : Char) :
    [')'].isSuffixOf? (text ++ [c]) = if c = ')' then some text else none := by
  split
  · next hc => rw [List.isSuffixOf?_eq_some_iff_append_eq, hc]
  · next hc =>
    refine Option.eq_none_iff_forall_ne_some.2 fun kept hkept => hc ?_
    have hlast := List.isSuffixOf?_eq_some_iff_append_eq.1 hkept
    exact (List.singleton_inj.1 (List.append_inj' hlast rfl).2).symm

theorem clauseArguments_append_blanks (text : List Char) {blanks : List Char} (h : ∀ c ∈ blanks, isBlank c = true) :
    clauseArguments (relationMarker ++ (text ++ blanks)) = clauseArguments (relationMarker ++ text) := by
  simp only [clauseArguments, isPrefixOf?_relationMarker, Option.getD_some, trim_append_blanks text h]

/-- the arguments stand behind the opening parenthesis, or start with it when the last one does not close it -/
theorem clauseArguments_open (text : List Char) {c : Char} (hc : isBlank c = false) :
    clauseArguments (relationMarker ++ '(' :: (text ++ [c])) = if c = ')' then text else '(' :: (text ++ [c]) := by
  have htrim : trim ('(' :: (text ++ [c])) = '(' :: (text ++ [c]) := by
    refine trim_eq_self (fun d hd => ?_) fun d hd => ?_
    · rw [← Option.some.inj hd]
      decide
    · rw [← List.cons_append, List.getLast?_concat] at hd
      exact Option.some.inj hd ▸ hc
  simp only [clauseArguments, isPrefixOf?_relationMarker, Option.getD_some, htrim, isSuffixOf?_concat]
  split <;> rfl

theorem clauseArguments_parentheses (inner : List Char) :
    clauseArguments (relationMarker ++ '(' :: (inner ++ [')'])) = inner := by
  rw [clauseArguments_open inner (by decide), if_pos rfl]

theorem clauseArguments_clauseOf (args : List (List Char)) :
    clauseArguments (clauseOf args) = List.intercalate ", ".toList args := by
  by_cases h : args = []
  · subst h
    decide
  · rw [clauseOf_of_ne_nil h, clauseArguments_parentheses]

theorem even_relationMarker : Even relationMarker := by
  have hall : relationMarker.all (fun c => IsInert c ∧ c ≠ '[' ∧ c ≠ ']') = true := by decide
  exact even_inert fun c hc => of_decide_eq_true (List.all_eq_true.1 hall c hc)

theorem isBalanced_parentheses {inner : List Char} (h : Balanced inner) :
    isBalanced (relationMarker ++ '(' :: (inner ++ [')'])) = true := by
  have hinner := h ['('] [')']
  have houter := even_relationMarker.balanced [] ('(' :: (inner ++ [')']))
  rw [isBalanced, houter]
  simpa [balancedFrom, answered?] using hinner

theorem Clause.SpelledBy.readClause {c : Clause} {args : List (List Char)} (h : c.SpelledBy args) (hc : c.Clear) :
    Line.readClause (clauseOf args) = .ok c := by
  have hbalanced : isBalanced (clauseOf args) = true := by
    by_cases hnil : args = []
    · subst hnil
      decide
    · rw [clauseOf_of_ne_nil hnil]
      refine isBalanced_parentheses (balanced_intercalate fun a ha => ?_)
      obtain ⟨key, hargument⟩ := h.own a ha
      exact hargument.balanced hc
  have hfields := h.bracketList hc .fields
  have hreferences := h.bracketList hc .references
  have hdelete := h.keyValue? hc .onDelete nofun rfl fun v hv => isWord_of_isIdentifier (hc.onDelete v hv)
  have hupdate := h.keyValue? hc .onUpdate nofun rfl fun v hv => isWord_of_isIdentifier (hc.onUpdate v hv)
  simp only [ArgumentKey.word] at hdelete hupdate
  unfold Line.readClause
  rw [if_pos hbalanced]
  simp only [clauseArguments_clauseOf, hfields, hreferences, h.clauseName? hc, hdelete, hupdate]
  rfl

/-! ## Arguments in any order -/

/-- the name with its key -/
def keyedName (name : Option String) : List (List Char) :=
  (name.map fun n => ArgumentKey.name.argument ('"' :: (n.toList ++ ['"']))).toList

/-- the arguments of a clause in some order, each once: the name stands first in quotes, or anywhere behind its key -/
def Clause.InSomeOrder (c : Clause) (args : List (List Char)) : Prop :=
  (∃ keyed, keyed.Perm c.keyedArguments ∧ args = nameArgument c.name ++ keyed) ∨
    args.Perm (keyedName c.name ++ c.keyedArguments)

namespace Clause

variable {c : Clause} {args : List (List Char)}

theorem isArgument_keyed {a : List Char} (h : a ∈ c.keyedArguments) : ∃ key, c.IsArgument key a := by
  obtain ⟨key, value, -, hvalue, rfl⟩ := mem_keyedArguments.1 h
  exact ⟨key, .keyed hvalue⟩

theorem spelledBy_nameFirst {keyed : List (List Char)} (h : keyed.Perm c.keyedArguments) :
    c.SpelledBy (nameArgument c.name ++ keyed) where
  own a ha := by
    rcases List.mem_append.1 ha with ha | ha
    · obtain ⟨n, hn, rfl⟩ := mem_nameArgument.1 ha
      exact ⟨.name, .quoted (Option.map_eq_some_iff.2 ⟨n, hn, rfl⟩)⟩
    · exact isArgument_keyed (h.mem_iff.1 ha)
  keyed key value hname hvalue :=
    List.mem_append_right _ (h.mem_iff.2 (mem_keyedArguments.2 ⟨key, value, hname, hvalue, rfl⟩))
  named value hvalue := by
    obtain ⟨n, hn, rfl⟩ := Option.map_eq_some_iff.1 hvalue
    exact Or.inl (by rw [hn]; rfl)

theorem spelledBy_nameKeyed (h : args.Perm (keyedName c.name ++ c.keyedArguments)) : c.SpelledBy args where
  own a ha := by
    rcases List.mem_append.1 (h.mem_iff.1 ha) with ha | ha
    · obtain ⟨n, hn, rfl⟩ := Option.map_eq_some_iff.1 (Option.mem_toList.1 ha)
      exact ⟨.name, .keyed (Option.map_eq_some_iff.2 ⟨n, hn, rfl⟩)⟩
    · exact isArgument_keyed ha
  keyed key value hname hvalue :=
    h.mem_iff.2 (List.mem_append_right _ (mem_keyedArguments.2 ⟨key, value, hname, hvalue, rfl⟩))
  named value hvalue := by
    obtain ⟨n, hn, rfl⟩ := Option.map_eq_some_iff.1 hvalue
    refine Or.inr ⟨h.mem_iff.2 (List.mem_append_left _ (by rw [hn]; exact List.mem_singleton_self _)), fun hmem => ?_⟩
    -- a keyed argument starts with a word, not with a quote
    have hkeyed : ∃ key : ArgumentKey, ∃ value, '"' :: (n.toList ++ ['"']) = key.argument value := by
      rcases List.mem_append.1 (h.mem_iff.1 hmem) with hmem | hmem
      · obtain ⟨m, -, hsame⟩ := Option.map_eq_some_iff.1 (Option.mem_toList.1 hmem)
        exact ⟨.name, _, hsame.symm⟩
      · obtain ⟨key, value, -, -, hsame⟩ := mem_keyedArguments.1 hmem
        exact ⟨key, value, hsame⟩
    obtain ⟨key, value, hsame⟩ := hkeyed
    obtain ⟨d, more, hword⟩ := List.exists_cons_of_ne_nil key.isWord.nonempty
    rw [ArgumentKey.argument, hword] at hsame
    have hd := key.isWord.chars d (hword ▸ List.mem_cons_self)
    exact ne_of_wordChar hd (by decide) (List.cons.inj hsame).1.symm

theorem spelledBy_arguments (c : Clause) : c.SpelledBy c.arguments :=
  arguments_eq_keyed c ▸ spelledBy_nameFirst (List.Perm.refl _)

end Clause

/-- **A clause is read back from its arguments in any order.** When no part of a clause can be taken for something else,
the written clause reads as it, and so does the clause written with its arguments in any order, the name first in quotes
or anywhere behind its key. -/
theorem readClause_anyOrder {c : Clause} (h : c.Clear) :
    readClause c.written = .ok c ∧ ∀ args, c.InSomeOrder args → readClause (clauseOf args) = .ok c := by
  refine ⟨written_eq_clauseOf c ▸ c.spelledBy_arguments.readClause h, fun args hargs => ?_⟩
  rcases hargs with ⟨keyed, hkeyed, rfl⟩ | hargs
  · exact (Clause.spelledBy_nameFirst hkeyed).readClause h
  · exact (Clause.spelledBy_nameKeyed hargs).readClause h

def keyLikeClause : Clause := ⟨some "fields [a], (b\\", ["name", "fields"], ["onDelete"], ⟨some "references", some "名"⟩⟩

/-- a clause whose parts are words of the keys, with an action first and the name behind its key -/
theorem readClause_anyOrder_keyLike : keyLikeClause.Clear ∧
    ∃ args, keyLikeClause.InSomeOrder args ∧
      clauseOf args = ("@relation(onUpdate: references, fields: [name, fields], " ++
      "name: \"fields [a], (b\\\", onDelete: 名, references: [onDelete])").toList ∧
      readClause (clauseOf args) = .ok keyLikeClause := by
  have hclear : keyLikeClause.Clear := by constructor <;> decide +kernel
  have horder : keyLikeClause.InSomeOrder ["onUpdate: references".toList, "fields: [name, fields]".toList,
      "name: \"fields [a], (b\\\"".toList, "onDelete: 名".toList, "references: [onDelete]".toList] :=
      Or.inr (by decide +kernel)
  exact ⟨hclear, _, horder, by decide +kernel, (readClause_anyOrder hclear).2 _ horder⟩

end EntityScaffold.Line

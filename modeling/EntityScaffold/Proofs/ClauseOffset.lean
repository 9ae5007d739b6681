import EntityScaffold.Line.Clause
import EntityScaffold.Proofs.KeySearch
import EntityScaffold.Proofs.Offset

/-!
A clause read by offsets. The occurrences of a key are searched for one behind the other, and the text before and after
each of them is cut out to tell whether it is the key of an argument. An occurrence that overlaps the one before it is
missed by that search, but it does not begin a word, so no argument is (`keyOffsetAmong_eq`). The value that follows the
colon is then cut out of the clause (`cutAfterKey?_eq`), and with it the names and lists of the clause
(`cutClause_eq`).
-/

namespace EntityScaffold.Line

open Text

/-! ## Keys -/

/-- the offsets at which a key occurs in a text that starts at offset `i`, each behind the occurrence before it; the
first `skip` characters belong to an occurrence -/
def occurrences (key : List Char) : Nat → Nat → List Char → List Nat
  | _, _, [] => []
  | skip + 1, i, c :: rest => occurrences key skip (i + c.utf8Size) rest
  | 0, i, c :: rest =>
    if key.isPrefixOf (c :: rest) then i :: occurrences key (key.length - 1) (i + c.utf8Size) rest
    else occurrences key 0 (i + c.utf8Size) rest

/-- the offset of a text that ends another one; none when it is longer -/
def offsetOfEnd (whole text : List Char) : Option Nat :=
  if byteCount text ≤ byteCount whole then some (byteCount whole - byteCount text) else none

/-- the offset behind the colon of the first key, among offsets at which the key occurs -/
def keyOffsetAmong (key args : List Char) : List Nat → Option (Option Nat)
  | [] => some none
  | i :: more => do
    let before ← takeBytes i args
    if before.getLast?.any isWordChar then keyOffsetAmong key args more
    else
      let after ← dropBytes (i + byteCount key) args
      match trimStart after with
      | ':' :: value => (offsetOfEnd args value).map some
      | _ => keyOffsetAmong key args more

/-- the text behind the offset of a key that was found -/
def valueAt (args : List Char) : Option Nat → Option (Option (List Char))
  | none => some none
  | some i => (dropBytes i args).map some

/-- the text after the first `key:` that begins a word, cut off at its offset -/
def cutAfterKey? (key : String) (args : List Char) : Option (Option (List Char)) :=
  (keyOffsetAmong key.toList args (occurrences key.toList 0 0 args)).bind (valueAt args)

theorem offsetOfEnd_append (a b : List Char) : offsetOfEnd (a ++ b) b = some (byteCount a) := by
  simp [offsetOfEnd]

section Search

variable {key : List Char}

/-- a character of a word is passed over: what starts behind it begins no word -/
theorem afterKeyFrom_inside {before : Option Char} (h : before.any isWordChar = true) (c : Char) (rest : List Char) :
    afterKeyFrom key before (c :: rest) = afterKeyFrom key (some c) rest :=
  afterKeyFrom_skip_char fun _ _ => Or.inl h

/-- at an occurrence the text around it is cut out -/
theorem keyOffsetAmong_cons {args read after : List Char} (hargs : args = read ++ (key ++ after)) (more : List Nat) :
    keyOffsetAmong key args (byteCount read :: more) =
      if read.getLast?.any isWordChar then keyOffsetAmong key args more
      else
        match trimStart after with
        | ':' :: value => (offsetOfEnd args value).map some
        | _ => keyOffsetAmong key args more := by
  have htake : takeBytes (byteCount read) args = some read := by rw [hargs, takeBytes_append]
  have hdrop : dropBytes (byteCount read + byteCount key) args = some after := by
    rw [hargs, ← byteCount_append, ← List.append_assoc, dropBytes_append]
  rw [keyOffsetAmong, htake, hdrop]
  rfl

/-- **One occurrence.** The search ends at the occurrence if it is the key of an argument, and goes on behind it
if not. -/
theorem keyOffsetAmong_occurrence (hne : key ≠ []) {args read after rest : List Char} {c : Char}
    (hargs : args = read ++ (key ++ after)) (hafter : key ++ after = c :: rest) {more : List Nat}
    (hnext : (keyOffsetAmong key args more).bind (valueAt args) = some (afterKeyFrom key (some c) rest)) :
    (keyOffsetAmong key args (byteCount read :: more)).bind (valueAt args) =
      some (afterKeyFrom key read.getLast? (c :: rest)) := by
  rw [keyOffsetAmong_cons hargs]
  by_cases hinside : read.getLast?.any isWordChar = true
  · rw [if_pos hinside, hnext, afterKeyFrom_inside hinside]
  rw [if_neg hinside]
  rw [Bool.not_eq_true] at hinside
  obtain ⟨gap, hgap, hblanks⟩ := trimStart_append after
  split
  · next value hvalue =>
    rw [hvalue] at hgap
    have hat : KeyAt key read.getLast? (c :: rest) value :=
      ⟨hinside, gap, by rw [← hafter, hgap], hblanks⟩
    have hwhole : args = (read ++ key ++ gap ++ [':']) ++ value := by simp [hargs, hgap]
    rw [afterKeyFrom_place hne hat, hwhole, offsetOfEnd_append]
    simp only [Option.map_some, Option.bind_some, valueAt, dropBytes_append]
  · next hcolon =>
    rw [hnext]
    refine congrArg some (afterKeyFrom_skip_char fun after' hafter' => Or.inr fun hhead => ?_).symm
    obtain ⟨value, hvalue⟩ := List.head?_eq_some_iff.1 hhead
    rw [← hafter] at hafter'
    rw [List.append_cancel_left hafter'] at hvalue
    exact hcolon value hvalue

/-- **The search among occurrences** finds the value of the first key. -/
theorem keyOffsetAmong_eq (hkey : IsWord key) {args read text : List Char} (hargs : args = read ++ text) (skip : Nat)
    (hskip : ∀ c ∈ text.take skip, isWordChar c = true) (hbefore : 0 < skip → read.getLast?.any isWordChar = true) :
    (keyOffsetAmong key args (occurrences key skip (byteCount read) text)).bind (valueAt args) =
      some (afterKeyFrom key read.getLast? text) := by
  induction text generalizing read skip with
  | nil => cases skip <;> rfl
  | cons c rest ih =>
    have hrest : args = (read ++ [c]) ++ rest := by simp [hargs]
    -- what is found behind the character
    have hnext : ∀ skip, (∀ d ∈ rest.take skip, isWordChar d = true) → (0 < skip → isWordChar c = true) →
        (keyOffsetAmong key args (occurrences key skip (byteCount read + c.utf8Size) rest)).bind (valueAt args) =
          some (afterKeyFrom key (some c) rest) := by
      intro skip hskip hbefore
      have hih := ih hrest skip hskip fun h => by simpa using hbefore h
      simpa using hih
    cases skip with
    | succ skip =>
      -- inside an occurrence
      rw [occurrences, hnext skip (fun d hd => hskip d (by simp [hd])) fun _ => hskip c (by simp),
        afterKeyFrom_inside (hbefore (Nat.succ_pos skip))]
    | zero =>
      by_cases hoccurs : key <+: c :: rest
      · rw [occurrences, if_pos (List.isPrefixOf_iff_prefix.2 hoccurs)]
        obtain ⟨after, hafter⟩ := hoccurs
        have hword : ∀ d ∈ (c :: rest).take key.length, isWordChar d = true := by
          rw [← hafter, List.take_left]
          exact hkey.chars
        obtain ⟨k, part, rfl⟩ := List.exists_cons_of_ne_nil hkey.nonempty
        refine keyOffsetAmong_occurrence hkey.nonempty (by rw [hafter, hargs]) hafter (hnext _ ?_ fun _ => ?_)
        · exact fun d hd => hword d (List.mem_cons_of_mem c hd)
        · exact hword c (by simp)
      · have hstands : ¬key.isPrefixOf (c :: rest) = true := fun h => hoccurs (List.isPrefixOf_iff_prefix.1 h)
        rw [occurrences, if_neg hstands, hnext 0 (by simp) fun h => absurd h (Nat.lt_irrefl 0)]
        exact congrArg some (afterKeyFrom_skip_char fun after hafter => absurd ⟨after, hafter⟩ hoccurs).symm

end Search

theorem cutAfterKey?_eq {key : String} (hkey : IsWord key.toList) (args : List Char) :
    cutAfterKey? key args = some (afterKey? key args) := by
  have hargs : args = [] ++ args := rfl
  exact keyOffsetAmong_eq hkey hargs 0 (by simp) fun h => absurd h (Nat.lt_irrefl 0)

/-! ## Arguments -/

/-- the text up to a character, cut off at the offset of the character -/
def cutUpTo? (c : Char) (text : List Char) : Option (Option (List Char)) :=
  match charOffset? (· = c) text with
  | none => some none
  | some i => (takeBytes i text).map some

def cutName? (args : List Char) : Option (Option String) := do
  let quoted ← if args.head? = some '"' then some (some args) else (cutAfterKey? "name" args).map (·.map trimStart)
  match quoted with
  | some ('"' :: inner) => (cutUpTo? '"' inner).map (·.map String.ofList)
  | _ => some none

/-- the names in brackets after a key -/
def cutList (key : ListKey) (args : List Char) : Cut LineError (List String) := do
  match ← liftM (cutAfterKey? key.word args) with
  | none => pure []
  | some value =>
    match trimStart value with
    | '[' :: inner =>
      match ← liftM (cutUpTo? ']' inner) with
      | some text => pure (listEntries text)
      | none => throw .unbalancedBrackets
    | _ => throw (.expectedList key)

/-- the value after a key, cut off before a comma or a closing parenthesis -/
def cutValue? (key : String) (args : List Char) : Option (Option String) := do
  match ← cutAfterKey? key args with
  | none => some none
  | some value =>
    let text ← takeBytes ((charOffset? (fun c => c = ',' || c = ')') value).getD (byteCount value)) value
    match trim text with
    | [] => some none
    | text => some (some (String.ofList text))

/-- the clause a text stands for, cut out of it -/
def cutClause (clause : List Char) : Cut LineError Clause :=
  if isBalanced clause then do
    let args := clauseArguments clause
    let name ← liftM (cutName? args)
    let fields ← cutList .fields args
    let references ← cutList .references args
    let onUpdate ← liftM (cutValue? "onUpdate" args)
    let onDelete ← liftM (cutValue? "onDelete" args)
    pure { name, fields, references, restrictions := ⟨onUpdate, onDelete⟩ }
  else throw .unbalancedBrackets

theorem cutUpTo?_eq (c : Char) (text : List Char) : cutUpTo? c text = some (upTo? c text) := by
  have hcontains : text.contains c = text.any (· = c) := by
    rw [List.contains_eq_any_beq]
    exact congrArg text.any (funext fun d => by simp [eq_comm, beq_eq_decide])
  have hwhile : (text.takeWhile fun d => !decide (d = c)) = text.takeWhile (· ≠ c) := by simp
  unfold cutUpTo? upTo?
  rw [charOffset?_eq, hcontains]
  cases text.any (· = c) with
  | false => rfl
  | true =>
    simp only [if_true, takeBytes_takeWhile, Option.map_some, hwhile]

theorem cutName?_eq (args : List Char) : cutName? args = some (clauseName? args) := by
  have hquoted : ∀ quoted : Option (List Char),
      (match quoted with
        | some ('"' :: inner) => (cutUpTo? '"' inner).map (·.map String.ofList)
        | _ => some none) =
      some (match quoted with
        | some ('"' :: inner) => (upTo? '"' inner).map String.ofList
        | _ => none) := by
    intro quoted
    split
    · rw [cutUpTo?_eq, Option.map_some]
    · rfl
  unfold cutName? clauseName?
  by_cases hquote : args.head? = some '"'
  · simp only [hquote, if_true, Option.bind_eq_bind, Option.bind_some]
    exact hquoted (some args)
  · simp only [hquote, if_false, cutAfterKey?_eq isWord_name, Option.map_some, Option.bind_eq_bind, Option.bind_some]
    exact hquoted _

theorem cutList_eq (key : ListKey) (args : List Char) : cutList key args = Cut.done (bracketList key args) := by
  unfold cutList bracketList
  simp only [cutAfterKey?_eq (isWord_key key), Cut.lift_some, Cut.done_ok_bind, cutUpTo?_eq]
  cases afterKey? key.word args with
  | none => rfl
  | some value =>
    dsimp only
    generalize trimStart value = text
    cases text with
    | nil => rfl
    | cons c inner =>
      by_cases hc : c = '['
      · subst hc
        cases hend : upTo? ']' inner <;> simp [hend]
      · simp [hc]

theorem cutValue?_eq {key : String} (hkey : IsWord key.toList) (args : List Char) :
    cutValue? key args = some (keyValue? key args) := by
  unfold cutValue? keyValue?
  simp only [cutAfterKey?_eq hkey, Option.bind_eq_bind, Option.bind_some]
  cases afterKey? key args with
  | none => rfl
  | some value =>
    have htake : takeBytes ((charOffset? (fun c => c = ',' || c = ')') value).getD (byteCount value)) value =
        some (value.takeWhile fun c => c ≠ ',' && c ≠ ')') := by
      have hwhile : (value.takeWhile fun c => !(decide (c = ',') || decide (c = ')'))) =
          value.takeWhile fun c => c ≠ ',' && c ≠ ')' := by simp
      rw [charOffset?_eq, ← hwhile]
      by_cases hany : value.any (fun c => c = ',' || c = ')') = true
      · rw [if_pos hany, Option.getD_some, takeBytes_takeWhile]
      · have hall : (value.takeWhile fun c => !(decide (c = ',') || decide (c = ')'))) = value := by
          refine List.takeWhile_eq_self_iff.2 fun c hc => ?_
          simp only [List.any_eq_true, not_exists, not_and] at hany
          simpa using hany c hc
        rw [if_neg hany, Option.getD_none, hall]
        simpa using takeBytes_append value []
    simp only [htake, Option.bind_some]
    cases trim (value.takeWhile fun c => c ≠ ',' && c ≠ ')') <;> rfl

/-- **A clause is cut up** between its characters, whatever it holds. -/
theorem cutClause_eq (clause : List Char) : cutClause clause = Cut.done (readClause clause) := by
  unfold cutClause readClause
  split
  · simp only [cutName?_eq, cutList_eq, cutValue?_eq isWord_onUpdate, cutValue?_eq isWord_onDelete, Cut.lift_some,
      Cut.done_ok_bind, Cut.pure_eq]
    cases bracketList .fields (clauseArguments clause) with
    | error e => rfl
    | ok fields => cases bracketList .references (clauseArguments clause) <;> rfl
  · rfl

end EntityScaffold.Line

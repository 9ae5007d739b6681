import EntityScaffold.Line.Clause
import Mathlib.Data.List.Basic

/-!
The balance of a clause. Its quotes cut a text into segments, and every other of them is quoted; of what is not quoted
the brackets alone matter. A text is balanced exactly when every quote is closed and the word of its brackets is one of
matched brackets (`isBalanced_matched`), told by a grammar. Since the reader of a text has brackets open, and may stand
between quotes, what it accepts is told for all open brackets and both sides of a quote (`balancedFrom_iff`): the rest
of the word closes the open brackets one after the other, with matched words in between (`Completes`).
-/

namespace EntityScaffold.Line

/-! ## Words of brackets -/

/-- an opening or a closing bracket of either kind -/
def isBracket (c : Char) : Bool := c = '(' || c = ')' || c = '[' || c = ']'

/-- words of matched brackets: `S → empty | ( S ) S | [ S ] S` -/
inductive Matched : List Char → Prop
  | empty : Matched []
  | round {a b : List Char} (ha : Matched a) (hb : Matched b) : Matched ('(' :: (a ++ ')' :: b))
  | square {a b : List Char} (ha : Matched a) (hb : Matched b) : Matched ('[' :: (a ++ ']' :: b))

/-- the word closes the open brackets, the innermost first; a matched word stands before each closing bracket, and one
after the last -/
def Completes : List Char → List Char → Prop
  | [], word => Matched word
  | o :: stack, word => ∃ a c b, word = a ++ c :: b ∧ answered? c = some o ∧ Matched a ∧ Completes stack b

theorem answered?_eq_some {c o : Char} : answered? c = some o ↔ (c = ')' ∧ o = '(') ∨ (c = ']' ∧ o = '[') := by
  constructor
  · intro h
    unfold answered? at h
    split at h
    · exact Or.inl ⟨rfl, (Option.some.inj h).symm⟩
    · exact Or.inr ⟨rfl, (Option.some.inj h).symm⟩
    · cases h
  · rintro (⟨rfl, rfl⟩ | ⟨rfl, rfl⟩) <;> rfl

/-- a word that starts with a bracket is matched when the bracket is closed in it, with matched words on both sides -/
theorem matched_cons {o : Char} {word : List Char} : Matched (o :: word) ↔
    ∃ a c b, word = a ++ c :: b ∧ answered? c = some o ∧ Matched a ∧ Matched b := by
  constructor
  · intro h
    cases h with
    | round ha hb => exact ⟨_, ')', _, rfl, rfl, ha, hb⟩
    | square ha hb => exact ⟨_, ']', _, rfl, rfl, ha, hb⟩
  · rintro ⟨a, c, b, rfl, hanswer, ha, hb⟩
    rcases answered?_eq_some.1 hanswer with ⟨rfl, rfl⟩ | ⟨rfl, rfl⟩
    · exact .round ha hb
    · exact .square ha hb

section Completes

variable {stack word : List Char} {c o : Char}

theorem completes_nil : Completes stack [] ↔ stack = [] := by
  cases stack with
  | nil => exact ⟨fun _ => rfl, fun _ => .empty⟩
  | cons o stack =>
    constructor
    · rintro ⟨a, c, b, hword, -⟩
      exact absurd hword.symm (List.append_ne_nil_of_right_ne_nil a (List.cons_ne_nil c b))
    · rintro ⟨⟩

/-- a bracket that opens is closed before those that were open -/
theorem completes_open (ho : o = '(' ∨ o = '[') : Completes stack (o :: word) ↔ Completes (o :: stack) word := by
  cases stack with
  | nil => exact matched_cons
  | cons p stack =>
    constructor
    · rintro ⟨a, c, b, hword, hanswer, ha, hb⟩
      cases a with
      | nil =>
        obtain rfl := (List.cons.inj hword).1
        rcases ho with rfl | rfl <;> cases hanswer
      | cons d a =>
        obtain ⟨rfl, rfl⟩ := List.cons.inj hword
        obtain ⟨x, d, y, rfl, hanswer', hx, hy⟩ := matched_cons.1 ha
        exact ⟨x, d, y ++ c :: b, by simp, hanswer', hx, y, c, b, rfl, hanswer, hy, hb⟩
    · rintro ⟨x, d, rest, rfl, hanswer', hx, y, c, b, rfl, hanswer, hy, hb⟩
      exact ⟨o :: (x ++ d :: y), c, b, by simp, hanswer, matched_cons.2 ⟨x, d, y, rfl, hanswer', hx, hy⟩, hb⟩

/-- a bracket that closes answers the innermost open one -/
theorem completes_close (hc : answered? c = some o) :
    Completes stack (c :: word) ↔ stack.head? = some o ∧ Completes stack.tail word := by
  -- no matched word starts with it
  have hstart : ∀ rest, ¬Matched (c :: rest) := by
    intro rest h
    obtain ⟨-, d, -, -, hanswer, -⟩ := matched_cons.1 h
    rcases answered?_eq_some.1 hanswer with ⟨-, rfl⟩ | ⟨-, rfl⟩ <;> cases hc
  cases stack with
  | nil => exact ⟨fun h => absurd h (hstart word), fun h => nomatch h.1⟩
  | cons p stack =>
    constructor
    · rintro ⟨a, d, b, hword, hanswer, ha, hb⟩
      cases a with
      | nil =>
        obtain ⟨rfl, rfl⟩ := List.cons.inj hword
        exact ⟨hanswer.symm.trans hc, hb⟩
      | cons x a =>
        obtain ⟨rfl, -⟩ := List.cons.inj hword
        exact absurd ha (hstart a)
    · rintro ⟨hp, hrest⟩
      obtain rfl := Option.some.inj hp
      exact ⟨[], c, word, rfl, hc, .empty, hrest⟩

end Completes

/-! ## What is not quoted -/

/-- every other element of a list, from the first on -/
def everyOther {α : Type} : List α → List α
  | [] => []
  | [a] => [a]
  | a :: _ :: rest => a :: everyOther rest

/-- the text without its quoted segments, and without the quotes -/
def unquoted (text : List Char) : List Char := (everyOther (text.splitOn '"')).flatten

/-- what is not quoted of a text that is read from between quotes, or from outside them -/
def unquotedFrom (quoted : Bool) (text : List Char) : List Char :=
  if quoted then (everyOther (text.splitOn '"').tail).flatten else unquoted text

theorem everyOther_cons {α : Type} (a : α) (rest : List α) : everyOther (a :: rest) = a :: everyOther rest.tail := by
  cases rest <;> rfl

theorem unquotedFrom_nil (quoted : Bool) : unquotedFrom quoted [] = [] := by
  cases quoted <;> rfl

theorem unquotedFrom_quote (quoted : Bool) (text : List Char) :
    unquotedFrom quoted ('"' :: text) = unquotedFrom (!quoted) text := by
  have hcons : ('"' :: text).splitOn '"' = [] :: text.splitOn '"' := by simp [List.splitOn_cons_eq_if_modifyHead]
  unfold unquotedFrom unquoted
  rw [hcons]
  cases quoted with
  | false => simp [everyOther_cons]
  | true => rfl

theorem unquotedFrom_char {c : Char} (hc : c ≠ '"') (quoted : Bool) (text : List Char) :
    unquotedFrom quoted (c :: text) = if quoted then unquotedFrom quoted text else c :: unquotedFrom quoted text := by
  obtain ⟨first, rest, hsplit⟩ := List.exists_cons_of_ne_nil (List.splitOn_ne_nil '"' text)
  have hcons : (c :: text).splitOn '"' = (c :: first) :: rest := by
    simp [List.splitOn_cons_eq_if_modifyHead, hc, hsplit]
  unfold unquotedFrom unquoted
  rw [hcons, hsplit]
  cases quoted with
  | false => simp [everyOther_cons]
  | true => rfl

/-! ## The balance of a text -/

/-- **The rest of a balanced text** closes its last quote, and the brackets in it that are not quoted complete the open
ones. -/
theorem balancedFrom_iff (quoted : Bool) (stack text : List Char) : balancedFrom quoted stack text = true ↔
    (text.count '"' + quoted.toNat) % 2 = 0 ∧ Completes stack ((unquotedFrom quoted text).filter isBracket) := by
  induction text generalizing quoted stack with
  | nil => cases quoted <;> simp [balancedFrom, unquotedFrom_nil, completes_nil]
  | cons c rest ih =>
    by_cases hquote : c = '"'
    · subst hquote
      have hstep : balancedFrom quoted stack ('"' :: rest) = balancedFrom (!quoted) stack rest := by
        cases quoted <;> simp [balancedFrom]
      have hparity : (rest.count '"' + 1 + quoted.toNat) % 2 = (rest.count '"' + (!quoted).toNat) % 2 := by
        cases quoted with
        | false => rfl
        | true => rw [Bool.toNat_true, Bool.not_true, Bool.toNat_false]; omega
      rw [hstep, ih, unquotedFrom_quote, List.count_cons_self, hparity]
    rw [unquotedFrom_char hquote, List.count_cons_of_ne hquote]
    cases quoted with
    | true =>
      have hstep : balancedFrom true stack (c :: rest) = balancedFrom true stack rest := by simp [balancedFrom, hquote]
      rw [hstep, ih, if_pos rfl]
    | false =>
      rw [if_neg (by decide)]
      by_cases hopen : c = '(' ∨ c = '['
      · have hstep : balancedFrom false stack (c :: rest) = balancedFrom false (c :: stack) rest := by
          rcases hopen with rfl | rfl <;> simp [balancedFrom]
        have hbracket : isBracket c = true := by rcases hopen with rfl | rfl <;> rfl
        rw [hstep, ih, List.filter_cons_of_pos hbracket, completes_open hopen]
      · obtain ⟨hround, hsquare⟩ := not_or.1 hopen
        cases hanswer : answered? c with
        | none =>
          have hstep : balancedFrom false stack (c :: rest) = balancedFrom false stack rest := by
            simp [balancedFrom, hquote, hround, hsquare, hanswer]
          have hbracket : isBracket c = false := by
            have hclose : c ≠ ')' ∧ c ≠ ']' := by constructor <;> rintro rfl <;> cases hanswer
            simp [isBracket, hround, hsquare, hclose]
          rw [hstep, ih, List.filter_cons_of_neg (by simp [hbracket])]
        | some o =>
          have hstep : balancedFrom false stack (c :: rest) = true ↔
              stack.head? = some o ∧ balancedFrom false stack.tail rest = true := by
            simp [balancedFrom, hquote, hround, hsquare, hanswer]
          have hbracket : isBracket c = true := by
            rcases answered?_eq_some.1 hanswer with ⟨rfl, -⟩ | ⟨rfl, -⟩ <;> rfl
          rw [hstep, ih, List.filter_cons_of_pos hbracket, completes_close hanswer]
          exact and_left_comm

/-- **Balanced texts.** A text is balanced exactly when the number of its quotes is even and the brackets outside its
quoted segments are matched; any other clause is refused for its brackets. -/
theorem isBalanced_matched (text : List Char) :
    (isBalanced text = true ↔ text.count '"' % 2 = 0 ∧ Matched ((unquoted text).filter isBracket)) ∧
      (¬(text.count '"' % 2 = 0 ∧ Matched ((unquoted text).filter isBracket)) →
        readClause text = .error .unbalancedBrackets) := by
  have hbalanced : isBalanced text = true ↔ text.count '"' % 2 = 0 ∧ Matched ((unquoted text).filter isBracket) :=
    balancedFrom_iff false [] text
  refine ⟨hbalanced, fun hrefused => ?_⟩
  rw [readClause, if_neg (fun h => hrefused (hbalanced.1 h))]

def bracketedName : List Char := "@relation(\"a[\", fields: [x])".toList

/-- the brackets of the clause are matched, and brackets that cross are refused -/
theorem isBalanced_matched_bracketedName :
    bracketedName.count '"' % 2 = 0 ∧ Matched ((unquoted bracketedName).filter isBracket) ∧
      readClause "([)]".toList = .error .unbalancedBrackets := by
  obtain ⟨hquotes, hbrackets⟩ := (isBalanced_matched bracketedName).1.1 (by decide)
  obtain ⟨hbalanced, hrefused⟩ := isBalanced_matched "([)]".toList
  have hcrossed : isBalanced "([)]".toList = false := by decide
  refine ⟨hquotes, hbrackets, hrefused fun h => ?_⟩
  rw [hbalanced.2 h] at hcrossed
  cases hcrossed

end EntityScaffold.Line

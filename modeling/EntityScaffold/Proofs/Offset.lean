import EntityScaffold.Text.Bytes
import Mathlib.Data.List.Basic

/-!
Cuts by offsets. A text can be cut at an offset in bytes of its UTF-8 form, and a list at a place; a cut behind the end,
or inside a character, has no outcome. A cut has one exactly where a part of the text ends (`takeBytes_eq_some`,
`dropBytes_eq_some`), and offsets that are counted along the text, or found in it (`charOffset?_eq`), are such places.
-/

namespace EntityScaffold

/-- an outcome that cuts and look-ups lead to; none when one of them has none -/
abbrev Cut (ε α : Type) := ExceptT ε Option α

/-- the outcome when they all have one -/
def Cut.done {ε α : Type} (outcome : Except ε α) : Cut ε α := ExceptT.mk (some outcome)

/-- the outcome with its error told in other words -/
def Cut.mapError {ε δ α : Type} (f : ε → δ) (x : Cut ε α) : Cut δ α := x.adapt f

namespace Cut

variable {ε α β : Type}

@[simp] theorem pure_eq (a : α) : (pure a : Cut ε α) = done (.ok a) := rfl

@[simp] theorem throw_eq (e : ε) : (throw e : Cut ε α) = done (.error e) := rfl

@[simp] theorem done_ok_bind (a : α) (f : α → Cut ε β) : (done (.ok a) >>= f) = f a := rfl

@[simp] theorem done_error_bind (e : ε) (f : α → Cut ε β) : (done (.error e) >>= f) = done (.error e) := rfl

@[simp] theorem lift_some (a : α) : (liftM (some a) : Cut ε α) = done (.ok a) := rfl

@[simp] theorem lift_except (x : Except ε α) : (liftM x : Cut ε α) = done x := rfl

@[simp] theorem mapError_done {δ : Type} (f : ε → δ) (x : Except ε α) :
    (done x).mapError f = done (x.mapError f) := by
  cases x <;> rfl

theorem done_bind (x : Except ε α) (f : α → Except ε β) : (done x >>= fun a => done (f a)) = done (x >>= f) := by
  cases x <;> rfl

theorem foldlM_done {f : β → α → Cut ε β} {g : β → α → Except ε β} (h : ∀ b a, f b a = done (g b a)) (l : List α)
    (b : β) : l.foldlM f b = done (l.foldlM g b) := by
  induction l generalizing b with
  | nil => rfl
  | cons a l ih =>
    rw [List.foldlM_cons, List.foldlM_cons, h, ← done_bind]
    exact congrArg (done (g b a) >>= ·) (funext ih)

end Cut

theorem mapM_some {α β : Type} {f : α → Option β} {g : α → β} {l : List α} (h : ∀ a ∈ l, f a = some (g a)) :
    l.mapM f = some (l.map g) := by
  induction l with
  | nil => rfl
  | cons a l ih =>
    rw [List.mapM_cons, h a List.mem_cons_self, ih fun x hx => h x (List.mem_cons_of_mem _ hx)]
    rfl

/-! ## Cuts of a list -/

/-- the first `n` elements, when there are as many -/
def takePlaces {α : Type} (n : Nat) (l : List α) : Option (List α) := if n ≤ l.length then some (l.take n) else none

/-- the elements after the first `n`, when there are as many -/
def dropPlaces {α : Type} (n : Nat) (l : List α) : Option (List α) := if n ≤ l.length then some (l.drop n) else none

theorem takePlaces_append {α : Type} (a b : List α) : takePlaces a.length (a ++ b) = some a := by
  simp [takePlaces]

theorem dropPlaces_append {α : Type} (a b : List α) : dropPlaces a.length (a ++ b) = some b := by
  simp [dropPlaces]

namespace Text

/-! ## Cuts of a text -/

/-- the text after its first `n` bytes, when that many bytes end between two characters -/
def dropBytes : Nat → List Char → Option (List Char)
  | 0, text => some text
  | _ + 1, [] => none
  | n + 1, c :: rest => if c.utf8Size ≤ n + 1 then dropBytes (n + 1 - c.utf8Size) rest else none

/-- the text between two offsets -/
def sliceBytes (start stop : Nat) (text : List Char) : Option (List Char) :=
  (takeBytes stop text).bind (dropBytes start)

@[simp] theorem byteCount_nil : byteCount [] = 0 := rfl

@[simp] theorem byteCount_cons (c : Char) (text : List Char) :
    byteCount (c :: text) = c.utf8Size + byteCount text := rfl

@[simp] theorem byteCount_append (a b : List Char) : byteCount (a ++ b) = byteCount a + byteCount b := by
  induction a with
  | nil => simp
  | cons c a ih => simp [ih, Nat.add_assoc]

theorem takeBytes_cons (n : Nat) (c : Char) (rest : List Char) :
    takeBytes (c.utf8Size + n) (c :: rest) = (takeBytes n rest).map (c :: ·) := by
  obtain ⟨k, hk⟩ := Nat.exists_eq_add_one.2 c.utf8Size_pos
  rw [hk, Nat.succ_add, takeBytes, if_pos (by omega)]
  congr 2
  omega

theorem takeBytes_append (a b : List Char) : takeBytes (byteCount a) (a ++ b) = some a := by
  induction a with
  | nil => rw [byteCount_nil, takeBytes]
  | cons c a ih => rw [byteCount_cons, List.cons_append, takeBytes_cons, ih, Option.map_some]

/-- **A cut has an outcome exactly where a part of the text ends.** -/
theorem takeBytes_eq_some {n : Nat} {text a : List Char} :
    takeBytes n text = some a ↔ ∃ b, text = a ++ b ∧ byteCount a = n := by
  constructor
  · intro h
    induction text generalizing n a with
    | nil =>
      cases n with
      | zero => cases h; exact ⟨[], rfl, rfl⟩
      | succ n => cases h
    | cons c rest ih =>
      cases n with
      | zero => cases h; exact ⟨c :: rest, rfl, rfl⟩
      | succ n =>
        rw [takeBytes] at h
        split at h
        · obtain ⟨a', ha', rfl⟩ := Option.map_eq_some_iff.1 h
          obtain ⟨b, rfl, hcount⟩ := ih ha'
          refine ⟨b, rfl, ?_⟩
          rw [byteCount_cons]
          omega
        · cases h
  · rintro ⟨b, rfl, rfl⟩
    exact takeBytes_append a b

theorem dropBytes_eq (n : Nat) (text : List Char) :
    dropBytes n text = (takeBytes n text).map fun a => text.drop a.length := by
  induction text generalizing n with
  | nil => cases n <;> rfl
  | cons c rest ih =>
    cases n with
    | zero => rfl
    | succ n =>
      rw [dropBytes, takeBytes]
      split
      · rw [ih, Option.map_map]
        rfl
      · rfl

theorem dropBytes_eq_some {n : Nat} {text b : List Char} :
    dropBytes n text = some b ↔ ∃ a, text = a ++ b ∧ byteCount a = n := by
  rw [dropBytes_eq, Option.map_eq_some_iff]
  constructor
  · rintro ⟨a, ha, rfl⟩
    obtain ⟨b, rfl, hcount⟩ := takeBytes_eq_some.1 ha
    exact ⟨a, by rw [List.drop_left], hcount⟩
  · rintro ⟨a, rfl, rfl⟩
    exact ⟨a, takeBytes_append a b, List.drop_left⟩

theorem dropBytes_append (a b : List Char) : dropBytes (byteCount a) (a ++ b) = some b :=
  dropBytes_eq_some.2 ⟨a, rfl, rfl⟩

theorem sliceBytes_append (a b c : List Char) :
    sliceBytes (byteCount a) (byteCount a + byteCount b) (a ++ (b ++ c)) = some b := by
  unfold sliceBytes
  rw [← byteCount_append, ← List.append_assoc, takeBytes_append, Option.bind_some, dropBytes_append]

/-! ## Offsets found in a text -/

/-- the offset of the first character of a class -/
def charOffset? (p : Char → Bool) : List Char → Option Nat
  | [] => none
  | c :: rest => if p c then some 0 else (charOffset? p rest).map (c.utf8Size + ·)

theorem charOffset?_eq (p : Char → Bool) (text : List Char) :
    charOffset? p text = if text.any p then some (byteCount (text.takeWhile (!p ·))) else none := by
  induction text with
  | nil => rfl
  | cons c rest ih =>
    rw [charOffset?]
    cases hc : p c with
    | true => simp [hc]
    | false =>
      rw [if_neg (by simp), ih]
      by_cases hany : rest.any p = true <;> simp [hc, hany]

theorem takeBytes_takeWhile (p : Char → Bool) (text : List Char) :
    takeBytes (byteCount (text.takeWhile p)) text = some (text.takeWhile p) := by
  nth_rewrite 2 [← List.takeWhile_append_dropWhile (p := p) (l := text)]
  exact takeBytes_append _ _

end Text

end EntityScaffold

import EntityScaffold.Line.Shape
import EntityScaffold.Proofs.Literal
import EntityScaffold.Proofs.Offset

/-!
A line read by offsets. The trailing comment is searched for among the bytes of the line, one after the other, and the
tokens are cut out between the offsets at which they start and end. The search is not misled by the bytes of a longer
character (`commentOffset_wide`), so it stops between two characters, where the comment starts (`cutComment_eq`); and
every token is cut out whole (`cutTokens_eq`).
-/

namespace EntityScaffold.Line

open Text

/-! ## Bytes of characters -/

/-- the byte of a character of ASCII -/
def byteOf (c : Char) : UInt8 := UInt8.ofNat c.toNat

/-- the bytes of a text in UTF-8 -/
def utf8 (text : List Char) : List UInt8 := text.flatMap String.utf8EncodeChar

theorem utf8_cons (c : Char) (rest : List Char) : utf8 (c :: rest) = String.utf8EncodeChar c ++ utf8 rest := rfl

theorem utf8EncodeChar_narrow {c : Char} (h : c.toNat < 128) : String.utf8EncodeChar c = [byteOf c] := by
  unfold String.utf8EncodeChar
  exact if_pos (Nat.le_of_lt_succ h)

/-- the bytes of a character beyond ASCII lie beyond ASCII -/
theorem utf8EncodeChar_wide {c : Char} (h : 128 ≤ c.toNat) : ∀ b ∈ String.utf8EncodeChar c, 128 ≤ b.toNat := by
  have hlow : ¬c.val.toNat ≤ 127 := Nat.not_le.2 h
  intro b hb
  unfold String.utf8EncodeChar at hb
  simp only [hlow, if_false] at hb
  split_ifs at hb <;> simp only [List.mem_cons, List.not_mem_nil, or_false] at hb
  · rcases hb with rfl | rfl <;> simp only [UInt8.toNat_ofNat'] <;> omega
  · rcases hb with rfl | rfl | rfl <;> simp only [UInt8.toNat_ofNat'] <;> omega
  · rcases hb with rfl | rfl | rfl | rfl <;> simp only [UInt8.toNat_ofNat'] <;> omega

theorem byteOf_inj {c d : Char} (hc : c.toNat < 128) (hd : d.toNat < 128) : byteOf c = byteOf d ↔ c = d := by
  refine ⟨fun h => ?_, fun h => h ▸ rfl⟩
  have htoNat := congrArg UInt8.toNat h
  simp only [byteOf, UInt8.toNat_ofNat'] at htoNat
  have hnat : c.toNat = d.toNat := by omega
  rw [← Char.ofNat_toNat c, hnat, Char.ofNat_toNat]

theorem ne_byteOf {b : UInt8} (h : 128 ≤ b.toNat) {d : Char} (hd : d.toNat < 128) : b ≠ byteOf d := by
  rintro rfl
  simp only [byteOf, UInt8.toNat_ofNat'] at h
  omega

/-- all bytes of a character after its first lie beyond ASCII -/
theorem utf8EncodeChar_eq (c : Char) : ∃ b bytes, String.utf8EncodeChar c = b :: bytes ∧
    (∀ x ∈ bytes, 128 ≤ x.toNat) ∧ bytes.length + 1 = c.utf8Size := by
  have hlength := String.length_utf8EncodeChar c
  rcases Nat.lt_or_ge c.toNat 128 with h | h
  · rw [utf8EncodeChar_narrow h] at hlength ⊢
    exact ⟨_, [], rfl, by simp, hlength⟩
  · have hwide := utf8EncodeChar_wide h
    cases hbytes : String.utf8EncodeChar c with
    | nil =>
      rw [hbytes] at hlength
      exact absurd hlength.symm (Nat.ne_of_gt c.utf8Size_pos)
    | cons b bytes =>
      rw [hbytes] at hlength hwide
      exact ⟨b, bytes, rfl, fun x hx => hwide x (List.mem_cons_of_mem _ hx), hlength⟩

/-- a character of ASCII leads the bytes exactly if it leads the text -/
theorem utf8_head? {d : Char} (hd : d.toNat < 128) (text : List Char) :
    (utf8 text).head? = some (byteOf d) ↔ text.head? = some d := by
  cases text with
  | nil => simp [utf8]
  | cons c rest =>
    rw [utf8_cons]
    rcases Nat.lt_or_ge c.toNat 128 with h | h
    · rw [utf8EncodeChar_narrow h]
      simp [byteOf_inj h hd]
    · obtain ⟨b, bytes, hbytes, -, -⟩ := utf8EncodeChar_eq c
      have hb : b ≠ byteOf d := ne_byteOf (utf8EncodeChar_wide h b (hbytes ▸ List.mem_cons_self)) hd
      have hc : c ≠ d := by
        rintro rfl
        omega
      rw [hbytes]
      simp [hb, hc]

/-! ## Trailing comments -/

/-- the offset of the first two slashes outside literals, among bytes that start at offset `i`; inside a literal a
backslash takes the byte after it along -/
def commentOffset : Bool → Nat → List UInt8 → Option Nat
  | _, _, [] => none
  | quoted, i, b :: rest =>
    if quoted = true ∧ b = byteOf '\\' then
      match rest with
      | [] => none
      | _ :: rest => commentOffset quoted (i + 2) rest
    else if b = byteOf '"' then commentOffset (!quoted) (i + 1) rest
    else if quoted = false ∧ b = byteOf '/' ∧ rest.head? = some (byteOf '/') then some i
    else commentOffset quoted (i + 1) rest

/-- a line cut into code and trailing comment at the offset of the comment -/
def cutComment (line : List Char) : Option (List Char × Option (List Char)) :=
  match commentOffset false 0 (utf8 line) with
  | none => some (line, none)
  | some i => do
    let code ← takeBytes i line
    let comment ← dropBytes i line
    some (code, some comment)

theorem commentOffset_cons (quoted : Bool) (i : Nat) (b : UInt8) (rest : List UInt8) :
    commentOffset quoted i (b :: rest) =
      if quoted = true ∧ b = byteOf '\\' then commentOffset quoted (i + 2) rest.tail
      else if b = byteOf '"' then commentOffset (!quoted) (i + 1) rest
      else if quoted = false ∧ b = byteOf '/' ∧ rest.head? = some (byteOf '/') then some i
      else commentOffset quoted (i + 1) rest := by
  rw [commentOffset.eq_def]
  cases rest with
  | nil => simp [commentOffset]
  | cons _ _ => rfl

/-- bytes beyond ASCII are passed over -/
theorem commentOffset_wide {bytes : List UInt8} (h : ∀ b ∈ bytes, 128 ≤ b.toNat) (quoted : Bool) (i : Nat)
    (rest : List UInt8) : commentOffset quoted i (bytes ++ rest) = commentOffset quoted (i + bytes.length) rest := by
  induction bytes generalizing i with
  | nil => rfl
  | cons b bytes ih =>
    have hb : ∀ d : Char, d.toNat < 128 → b ≠ byteOf d := fun d hd => ne_byteOf (h b List.mem_cons_self) hd
    have hrest := ih fun x hx => h x (List.mem_cons_of_mem _ hx)
    rw [List.cons_append, commentOffset_cons]
    simp only [hb '\\' (by decide), hb '"' (by decide), hb '/' (by decide), and_false, false_and, if_false, hrest]
    rw [List.length_cons, Nat.add_assoc, Nat.add_comm 1]

/-- the search among bytes from the place of a reader of characters -/
def commentOffsetAt (p : Place) (i : Nat) (bytes : List UInt8) : Option Nat :=
  match p with
  | .code => commentOffset false i bytes
  | .literal => commentOffset true i bytes
  | .escape => commentOffset true (i + 1) bytes.tail

theorem slashes_lead (c : Char) (rest : List Char) :
    ['/', '/'] <+: c :: rest ↔ c = '/' ∧ rest.head? = some '/' := by
  cases rest <;> simp [List.cons_prefix_cons, eq_comm]

section Character

variable (p : Place) (i : Nat) {c : Char} (rest : List Char)

/-- a byte of ASCII is looked at as its character is -/
theorem commentOffsetAt_narrow (h : c.toNat < 128) : commentOffsetAt p i (utf8 (c :: rest)) =
    if p = .code ∧ ['/', '/'] <+: c :: rest then some i
    else commentOffsetAt (p.next c) (i + c.utf8Size) (utf8 rest) := by
  have hsize : c.utf8Size = 1 := by
    rw [← String.length_utf8EncodeChar, utf8EncodeChar_narrow h]
    rfl
  have hbyte : ∀ d : Char, d.toNat < 128 → (byteOf c = byteOf d ↔ c = d) := fun d hd => byteOf_inj h hd
  simp only [utf8_cons, utf8EncodeChar_narrow h, hsize, List.singleton_append, slashes_lead]
  cases p with
  | code =>
    simp only [commentOffsetAt, commentOffset_cons, hbyte '\\' (by decide), hbyte '"' (by decide),
      hbyte '/' (by decide), utf8_head? (d := '/') (by decide), Bool.false_eq_true, false_and, if_false, true_and,
      Bool.not_false, Place.next]
    by_cases hquote : c = '"'
    · simp [hquote]
    · by_cases hslash : c = '/' ∧ rest.head? = some '/' <;> simp [hquote, hslash]
  | literal =>
    simp only [commentOffsetAt, commentOffset_cons, hbyte '\\' (by decide), hbyte '"' (by decide), true_and,
      Bool.not_true, Bool.true_eq_false, false_and, if_false, reduceCtorEq, Place.next]
    by_cases hback : c = '\\'
    · simp only [hback, if_true]
    · by_cases hquote : c = '"' <;> simp [hback, hquote]
  | escape => simp [commentOffsetAt, Place.next]

/-- the bytes of any other character are passed over, as it is -/
theorem commentOffsetAt_wide (h : 128 ≤ c.toNat) : commentOffsetAt p i (utf8 (c :: rest)) =
    commentOffsetAt (p.next c) (i + c.utf8Size) (utf8 rest) := by
  have hne : ∀ d : Char, d.toNat < 128 → c ≠ d := by
    rintro d hd rfl
    omega
  have hbytes := utf8EncodeChar_wide h
  have hlength := String.length_utf8EncodeChar c
  rw [utf8_cons]
  cases p with
  | code =>
    have hnext : Place.code.next c = .code := by simp [Place.next, hne '"' (by decide)]
    rw [hnext, commentOffsetAt, commentOffset_wide hbytes, hlength]
    rfl
  | literal =>
    have hnext : Place.literal.next c = .literal := by simp [Place.next, hne '\\' (by decide), hne '"' (by decide)]
    rw [hnext, commentOffsetAt, commentOffset_wide hbytes, hlength]
    rfl
  | escape =>
    -- the first byte was taken along by the backslash, the others are passed over
    obtain ⟨b, bytes, hbytes, hwide, hlength⟩ := utf8EncodeChar_eq c
    have hstep := commentOffset_wide hwide true (i + 1) (utf8 rest)
    rw [hbytes, List.cons_append]
    simp only [commentOffsetAt, List.tail_cons, Place.next]
    rw [hstep, Nat.add_assoc, Nat.add_comm 1, hlength]

end Character

/-- **One character.** The search goes through the bytes of a character as a reader goes over the character. -/
theorem commentOffsetAt_cons (p : Place) (i : Nat) (c : Char) (rest : List Char) :
    commentOffsetAt p i (utf8 (c :: rest)) =
      if p = .code ∧ ['/', '/'] <+: c :: rest then some i
      else commentOffsetAt (p.next c) (i + c.utf8Size) (utf8 rest) := by
  rcases Nat.lt_or_ge c.toNat 128 with h | h
  · exact commentOffsetAt_narrow p i rest h
  · have hslashes : ¬(p = .code ∧ ['/', '/'] <+: c :: rest) := by
      rintro ⟨-, hlead⟩
      obtain ⟨rfl, -⟩ := (slashes_lead c rest).1 hlead
      exact absurd h (by decide)
    rw [if_neg hslashes, commentOffsetAt_wide p i rest h]

/-- the search among the bytes of a line ends where the reader of its characters finds the comment -/
theorem commentOffsetAt_eq (p : Place) (i : Nat) (text : List Char) : commentOffsetAt p i (utf8 text) =
    (splitCommentFrom p text).2.map fun _ => i + byteCount (splitCommentFrom p text).1 := by
  induction text generalizing p i with
  | nil => cases p <;> rfl
  | cons c rest ih =>
    rw [commentOffsetAt_cons, splitCommentFrom_cons]
    split
    · simp
    · rw [ih]
      simp [Nat.add_assoc]

/-- **The comment is cut off** between two characters, and it is the trailing comment of the line. -/
theorem cutComment_eq (line : List Char) : cutComment line = some (splitComment line) := by
  have hsearch := commentOffsetAt_eq .code 0 line
  have hwhole := splitCommentFrom_append_eq .code line
  unfold cutComment splitComment
  rw [commentOffsetAt] at hsearch
  rw [hsearch]
  generalize splitCommentFrom .code line = parts at hwhole ⊢
  obtain ⟨code, comment⟩ := parts
  cases comment with
  | none =>
    simp only [Option.getD_none, List.append_nil] at hwhole
    simp [hwhole]
  | some comment =>
    simp only [Option.getD_some] at hwhole
    simp only [Option.map_some, Nat.zero_add, ← hwhole, takeBytes_append, dropBytes_append]
    rfl

/-! ## Tokens -/

/-- the tokens of a line from a character on that stands at offset `i`, cut out of the line; `start` is the offset of
the token that has started. They are none when a literal is left open. -/
def cutTokensFrom (line : List Char) : Place → Nat → Option Nat → List Char → Option (Option (List (List Char)))
  | p, _, start, [] =>
    if p = .code then
      match start with
      | none => some (some [])
      | some start => (dropBytes start line).map fun token => some [token]
    else some none
  | p, i, start, c :: rest =>
    if p = .code && isBlank c then
      match start with
      | none => cutTokensFrom line .code (i + c.utf8Size) none rest
      | some start => do
        let token ← sliceBytes start i line
        let tokens ← cutTokensFrom line .code (i + c.utf8Size) none rest
        some (tokens.map (token :: ·))
    else cutTokensFrom line (p.next c) (i + c.utf8Size) (start.or (some i)) rest

theorem cutTokensFrom_blank {c : Char} (h : isBlank c = true) (line rest : List Char) (i : Nat) (start : Option Nat) :
    cutTokensFrom line .code i start (c :: rest) =
      match start with
      | none => cutTokensFrom line .code (i + c.utf8Size) none rest
      | some start =>
        (sliceBytes start i line).bind fun token =>
          (cutTokensFrom line .code (i + c.utf8Size) none rest).bind fun tokens => some (tokens.map (token :: ·)) := by
  rw [cutTokensFrom.eq_def]
  exact if_pos (by simp [h])

theorem cutTokensFrom_char {p : Place} {c : Char} (h : p = .code → isBlank c = false) (line rest : List Char) (i : Nat)
    (start : Option Nat) : cutTokensFrom line p i start (c :: rest) =
      cutTokensFrom line (p.next c) (i + c.utf8Size) (start.or (some i)) rest := by
  rw [cutTokensFrom.eq_def]
  exact if_neg (by simpa using h)

/-- the tokens of a line, cut out at their offsets -/
def cutTokens (line : List Char) : Option (Option (List (List Char))) := cutTokensFrom line .code 0 none line

/-- what has been read of a line: whole tokens and blanks, and a piece of the token that has started -/
structure Started (line read piece rest : List Char) (start : Option Nat) : Prop where
  line : line = read ++ (piece ++ rest)
  start : start = if piece = [] then none else some (byteCount read)

theorem cutTokensFrom_eq {line read piece rest : List Char} {start : Option Nat}
    (h : Started line read piece rest start) (p : Place) : cutTokensFrom line p (byteCount (read ++ piece)) start rest =
      some ((tokensFrom p rest).map fun x => consToken (piece ++ x.1) x.2) := by
  induction rest generalizing read piece start p with
  | nil =>
    obtain ⟨hline, rfl⟩ := h
    rw [List.append_nil] at hline
    unfold cutTokensFrom tokensFrom consToken
    by_cases hp : p = .code
    · by_cases hpiece : piece = []
      · simp [hp, hpiece]
      · simp [hp, hpiece, hline, dropBytes_append]
    · simp [hp]
  | cons c rest ih =>
    obtain ⟨hline, rfl⟩ := h
    by_cases hblank : p = .code ∧ isBlank c = true
    · -- the token ends here
      obtain ⟨rfl, hc⟩ := hblank
      have hrest : Started line (read ++ (piece ++ [c])) [] rest none := ⟨by simp [hline], rfl⟩
      have hnext := ih hrest .code
      rw [List.append_nil, ← List.append_assoc, byteCount_append (read ++ piece), byteCount_cons, byteCount_nil,
        Nat.add_zero] at hnext
      rw [cutTokensFrom_blank hc, tokensFrom_blank hc, hnext]
      by_cases hpiece : piece = []
      · simp only [hpiece, if_true, List.nil_append]
        cases tokensFrom .code rest <;> simp [consToken]
      · have htoken : sliceBytes (byteCount read) (byteCount (read ++ piece)) line = some piece := by
          rw [hline, byteCount_append]
          exact sliceBytes_append read piece (c :: rest)
        simp only [hpiece, if_false, htoken]
        cases tokensFrom .code rest <;> simp [consToken, hpiece]
    · have hchar : p = .code → isBlank c = false := by simpa using hblank
      have hrest : Started line read (piece ++ [c]) rest (some (byteCount read)) := ⟨by simp [hline], by simp⟩
      have hnext := ih hrest (p.next c)
      rw [← List.append_assoc, byteCount_append (read ++ piece), byteCount_cons, byteCount_nil, Nat.add_zero] at hnext
      have hstart : ((if piece = [] then none else some (byteCount read)).or (some (byteCount (read ++ piece)))) =
          some (byteCount read) := by
        by_cases hpiece : piece = [] <;> simp [hpiece]
      rw [cutTokensFrom_char hchar, tokensFrom_char hchar, hstart, hnext]
      cases tokensFrom (p.next c) rest <;> simp

/-- **The tokens are cut out** whole, each between two characters. -/
theorem cutTokens_eq (line : List Char) : cutTokens line = some (tokens? line) := by
  have hstart : Started line [] [] line none := ⟨rfl, rfl⟩
  exact cutTokensFrom_eq hstart .code

/-! ## Shapes -/

/-- the shape of a line, its comment cut off -/
def cutShape (line : List Char) : Option Shape :=
  let trimmed := trim line
  if trimmed = [] then some .blank
  else if ['/', '/'].isPrefixOf trimmed then some .comment
  else if ['@'].isPrefixOf trimmed then some .directive
  else do
    let (code, _) ← cutComment trimmed
    let code := trimEnd code
    if code = ['\x7d'] then some .closing
    else if isIndented line then some .field
    else
      match opening? code with
      | some (keyword, name) => some (.opening keyword name)
      | none => some .other

theorem cutShape_eq (line : List Char) : cutShape line = some (shape line) := by
  unfold cutShape shape codeOf
  simp only [cutComment_eq, Option.bind_eq_bind, Option.bind_some]
  split_ifs <;> try rfl
  cases opening? (trimEnd (splitComment (trim line)).1) <;> rfl

end EntityScaffold.Line

import EntityScaffold.Text.Ligature
import EntityScaffold.Text.Picture

/-!
Width of a text in terminal columns. Most characters count for themselves, but some act together: an
emoji sequence joined by U+200D shows one picture, a variation selector turns a sign into a picture
or back, letters of a ligature share a column, and a line break of two characters takes one. Each of
these rules looks ahead, so the text is measured from its end, each character in view of what
follows it.
-/

namespace EntityScaffold.Text

/-! ## What follows a character -/

/-- what stands right after a character, as far as it matters for its width. The `joined` ones stand
before U+200D and a picture: nothing else, a key sign, halves of flags, or the end of a flag's name. -/
inductive Following
  | plain
  | newline
  | alef
  | ligature (tail : Tail) (joined : Bool)
  | kirat (vowel : KiratVowel)
  | picture
  | tone
  | flagHalf
  | flags
  | joinedPicture
  | joinedKey
  | joinedFlagHalf
  | joinedFlagsEven
  | joinedFlagsOdd
  | joinedTag (letters digits : Nat)
deriving DecidableEq, Repr

/-- what is known of the text after a character: what stands there, and which variation selectors in
between still wait for their sign -/
structure Ahead where
  following : Following
  asPicture : Bool
  asPlain : Bool
  asFull : Bool
deriving DecidableEq, Repr

/-- no selector stands in between -/
def Ahead.bare (f : Following) : Ahead := ⟨f, false, false, false⟩

/-- nothing that matters follows -/
def Ahead.nothing : Ahead := .bare .plain

/-- a letter that joins with letters before it keeps doing so behind a selector -/
def Following.joinsLetters : Following → Bool
  | .alef | .ligature .. => true
  | _ => false

/-- a picture behind U+200D, or a key sign before both, takes in a sign that is shown as a picture -/
def Following.takesSign : Following → Bool
  | .joinedPicture | .joinedKey => true
  | _ => false

/-- what a character that stands alone means to the one before it -/
def Ahead.ofChar (c : Char) : Ahead :=
  if c = '\ufe0f' then ⟨.plain, true, false, false⟩
  else if c = '\ufe0e' then ⟨.plain, false, true, false⟩
  else if c = '\ufe01' then ⟨.plain, false, false, true⟩
  else if isAlef c then .bare .alef
  else if isFlagHalf c then .bare .flagHalf
  else if isTone c then .bare .tone
  else if isPicture c then .bare .picture
  else
    match Tail.ofChar? c, KiratVowel.ofChar? c with
    | some tail, _ => .bare (.ligature tail false)
    | none, some vowel => .bare (.kirat vowel)
    | none, none => .nothing

/-- columns of a character that does not act together with what follows -/
def alone (c : Char) : Int × Ahead := (charColumns c, .ofChar c)

/-! ## Sequences -/

/-- columns of a character in view of a picture, a flag or a part of one that follows; none when it
does not act together with it. A flag joins a picture behind U+200D half by half. -/
def Following.inSequence? (f : Following) (c : Char) : Option (Int × Following) :=
  if c = '\u200d' then
    match f with
    | .picture | .tone | .flags | .joinedFlagsEven | .joinedFlagsOdd => some (0, .joinedPicture)
    | _ => none
  else if isFlagHalf c then
    match f with
    | .flagHalf | .flags => some (1, .flags)
    | .joinedPicture => some (1, .joinedFlagHalf)
    | .joinedFlagHalf | .joinedFlagsOdd => some (-1, .joinedFlagsEven)
    | .joinedFlagsEven => some (3, .joinedFlagsOdd)
    | _ => none
  else
    match f with
    | .tone => if isToneBase c then some (0, .picture) else none
    | .joinedPicture =>
      if c = '\u20e3' then some (0, .joinedKey)
      else if isTone c then some (0, .tone)
      else if c.toNat = 0xe007f then some (0, .joinedTag 0 0)
      else if isPicture c then some (0, .picture)
      else none
    | .joinedTag letters digits =>
      if isTagLetter c && digits = 0 && letters < 6 then some (0, .joinedTag (letters + 1) 0)
      else if isTagDigit c && letters ≤ 4 && digits < 3 then some (0, .joinedTag letters (digits + 1))
      else if c.toNat = 0x1f3f4 && (digits = 3 || (digits = 0 && 3 ≤ letters)) then
        some (0, .picture)
      else none
    | _ => none

/-- columns of a character in view of what follows, selectors apart -/
def Following.before (f : Following) (c : Char) : Int × Ahead :=
  match f with
  | .alef =>
    if isLam c then (0, .nothing) else if isPassingMark c then (0, .bare .alef) else alone c
  | .ligature tail joined =>
    match tail.before? joined c with
    | some (columns, some tail) => (columns, .bare (.ligature tail false))
    | some (columns, none) => (columns, .nothing)
    | none => alone c
  | .kirat vowel =>
    match vowel.before? c with
    | some (columns, some vowel) => (columns, .bare (.kirat vowel))
    | some (columns, none) => (columns, .nothing)
    | none => alone c
  | f =>
    match f.inSequence? c with
    | some (columns, f) => (columns, .bare f)
    | none => alone c

/-! ## Selectors -/

/-- the picture selector in between finds no sign and is dropped, with what it stood before unless
that joins letters -/
def Ahead.withoutPicture (a : Ahead) : Ahead :=
  if !a.asPicture then a
  else if a.following.joinsLetters then { a with asPicture := false }
  else .nothing

/-- the picture selector stands before what is known; a picture behind U+200D stays in reach -/
def Ahead.withPicture (a : Ahead) : Ahead :=
  if a.following.joinsLetters || a.following.takesSign then { a with asPicture := true }
  else .ofChar '\ufe0f'

/-- the plain selector stands before what is known -/
def Ahead.withPlain (a : Ahead) : Ahead :=
  if a.following.joinsLetters then { a with asPlain := true } else .ofChar '\ufe0e'

/-- the selector of full quotation marks stands before what is known -/
def Ahead.withFull (a : Ahead) : Ahead :=
  if a.following.joinsLetters then { a with asFull := true } else .ofChar '\ufe01'

/-- a curly quotation mark, single or double -/
def isCurlyQuote (c : Char) : Bool :=
  c = '\u2018' || c = '\u2019' || c = '\u201c' || c = '\u201d'

/-- columns of a character that no selector in between speaks of -/
def Following.unselected (f : Following) (c : Char) : Int × Ahead :=
  match f with
  | .ligature tail joined =>
    if isLigatureMark c then (0, .bare (.ligature tail (joined || c = '\u200d'))) else f.before c
  | f => f.before c

/-- columns of a character beyond U+00A0 that is not shown as a picture by a selector -/
def Ahead.beforeSign (a : Ahead) (c : Char) : Int × Ahead :=
  if c = '\ufe0f' then (0, a.withPicture)
  else if c = '\ufe0e' then (0, a.withPlain)
  else if c = '\ufe01' then (0, a.withFull)
  else if a.asPlain && hasNarrowForm c then (1, .nothing)
  else if a.asFull && isCurlyQuote c then (2, .nothing)
  else a.following.unselected c

/-- columns of a character in view of what follows, and what it means to the one before it. A sign
that a selector shows as a picture joins a picture behind U+200D; else it takes two columns. -/
def Ahead.before (a : Ahead) (c : Char) : Int × Ahead :=
  if a.asPicture && hasTwoForms c then
    (if a.following.takesSign then 0 else 2, .bare .picture)
  else
    let a := a.withoutPicture
    if c = '\n' then (1, .bare .newline)
    else if c = '\r' && a = .bare .newline then (0, .nothing)
    else if c.toNat ≤ 0xa0 then (1, .nothing)
    else a.beforeSign c

/-! ## Width -/

/-- columns of a text, and what it means to a character put before it -/
def measure : List Char → Int × Ahead
  | [] => (0, .nothing)
  | c :: rest =>
    let (columns, ahead) := measure rest
    let (more, ahead) := ahead.before c
    (columns + more, ahead)

/-- width of a text in terminal columns; a column given back was always counted before -/
def displayWidth (text : List Char) : Nat := (measure text).1.toNat

end EntityScaffold.Text

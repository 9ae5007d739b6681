import EntityScaffold.Text.Columns

/-!
Letters drawn together. In some scripts two or three letters share one column: an Arabic lam with an
alef, Tifinagh consonants around a joiner, Lisu tone letters in a pair, and others that ask for
U+200D between them. A Khmer letter under the sign coeng takes no column at all. Texts are measured
from their end, so a ligature is known by its last letter, its tail.
-/

namespace EntityScaffold.Text

/-! ## Arabic -/

/-- an Arabic lam, in any of its shapes -/
def isLam (c : Char) : Bool :=
  inRanges [(0x644, 0x644), (0x6b5, 0x6b8), (0x76a, 0x76a), (0x8a6, 0x8a6), (0x8c7, 0x8c7)] c.toNat

/-- an Arabic alef, in any of its shapes -/
def isAlef (c : Char) : Bool :=
  inRanges [(0x622, 0x623), (0x625, 0x625), (0x627, 0x627), (0x671, 0x673), (0x675, 0x675),
    (0x773, 0x774), (0x870, 0x882)] c.toNat

/-! ## Other scripts -/

/-- a Khmer letter that can stand below another one -/
def isCoengLetter (c : Char) : Bool :=
  inRanges [(0x1780, 0x1782), (0x1784, 0x1787), (0x1789, 0x178c), (0x178e, 0x1793),
    (0x1795, 0x1798), (0x179b, 0x179d), (0x17a0, 0x17a0), (0x17a2, 0x17a2), (0x17a7, 0x17a7),
    (0x17ab, 0x17ac), (0x17af, 0x17af)] c.toNat

def isTifinaghConsonant (c : Char) : Bool :=
  ('\u2d31' ≤ c && c ≤ '\u2d65') || c = '\u2d6f'

/-- a Lisu tone letter that starts a pair -/
def isLisuLead (c : Char) : Bool := '\ua4f8' ≤ c && c ≤ '\ua4fb'

/-- a Lisu tone letter that ends a pair -/
def isLisuTail (c : Char) : Bool := '\ua4fc' ≤ c && c ≤ '\ua4fd'

/-- a mark that leaves a ligature as it is, U+200D among them -/
def isLigatureMark (c : Char) : Bool :=
  inRanges [(0x34f, 0x34f), (0x17b4, 0x17b5), (0x180b, 0x180d), (0x180f, 0x180f),
    (0x200d, 0x200d), (0xfe00, 0xfe0f), (0xe0100, 0xe01ef)] c.toNat

/-- the end of a ligature that more letters before it would complete -/
inductive Tail
  | coengLetter
  | lamed
  | buginese
  | bugineseVowel
  | tifinagh
  | tifinaghJoiner
  | lisu
  | orkhon
deriving DecidableEq, Repr

/-- the tail that a letter forms by itself -/
def Tail.ofChar? (c : Char) : Option Tail :=
  if c = '\u05dc' then some .lamed
  else if isCoengLetter c then some .coengLetter
  else if c = '\u1a10' then some .buginese
  else if isTifinaghConsonant c then some .tifinagh
  else if isLisuTail c then some .lisu
  else if c.toNat = 0x10c03 then some .orkhon
  else none

/-- columns added by a letter before a tail, and the tail they form together if that is one; none
when the two do not join. The letter of a pair under coeng, or before a Tifinagh joiner, gives a
column back. `joined` says that U+200D stands between. -/
def Tail.before? (tail : Tail) (joined : Bool) (c : Char) : Option (Int × Option Tail) :=
  match tail with
  | .coengLetter => if c = '\u17d2' then some (-1, none) else none
  | .lamed => if joined && c = '\u05d0' then some (0, none) else none
  | .buginese => if joined && c = '\u1a17' then some (0, some .bugineseVowel) else none
  | .bugineseVowel => if c = '\u1a15' then some (0, none) else none
  | .tifinagh =>
    if c = '\u2d7f' then some (1, some .tifinaghJoiner)
    else if joined && isTifinaghConsonant c then some (0, none)
    else none
  | .tifinaghJoiner => if isTifinaghConsonant c then some (-1, none) else none
  | .lisu => if isLisuLead c then some (0, none) else none
  | .orkhon => if joined && c.toNat = 0x10c32 then some (0, none) else none

/-! ## Kirat Rai vowel signs -/

/-- how much of a Kirat Rai vowel sign of several parts stands after a character -/
inductive KiratVowel
  | e
  | ai
deriving DecidableEq, Repr

/-- the part that a vowel sign forms by itself -/
def KiratVowel.ofChar? (c : Char) : Option KiratVowel :=
  if c.toNat = 0x16d67 then some .e else if c.toNat = 0x16d68 then some .ai else none

/-- columns added by a vowel sign before parts of another, and the part they form together if any;
the signs o and au share the column of what ends them, and a sign ai counts as two signs e -/
def KiratVowel.before? (v : KiratVowel) (c : Char) : Option (Int × Option KiratVowel) :=
  match v, c.toNat with
  | .e, 0x16d63 | .e, 0x16d69 | .ai, 0x16d63 => some (0, none)
  | .e, 0x16d67 => some (0, some .ai)
  | .e, 0x16d68 => some (1, some .e)
  | _, _ => none

end EntityScaffold.Text

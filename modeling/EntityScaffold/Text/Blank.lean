import EntityScaffold.Text.Ranges

/-!
Blanks: the characters with the Unicode property White_Space. They separate the words of a line and
are trimmed from its ends. Zero-width spaces and the file and record separators are not blanks.
-/

namespace EntityScaffold.Text

/-- the Unicode property White_Space -/
def isBlank (c : Char) : Bool :=
  inRanges [(0x9, 0xd), (0x20, 0x20), (0x85, 0x85), (0xa0, 0xa0), (0x1680, 0x1680), (0x2000, 0x200a),
    (0x2028, 0x2029), (0x202f, 0x202f), (0x205f, 0x205f), (0x3000, 0x3000)] c.toNat

def trimStart (text : List Char) : List Char := text.dropWhile isBlank

/-- the text without the characters of a class at its end -/
def trimEndWhile (p : Char → Bool) : List Char → List Char
  | [] => []
  | c :: rest =>
    match trimEndWhile p rest with
    | [] => if p c then [] else [c]
    | kept => c :: kept

def trimEnd (text : List Char) : List Char := trimEndWhile isBlank text

def trim (text : List Char) : List Char := trimEnd (trimStart text)

def firstWord (text : List Char) : List Char := text.takeWhile (!isBlank ·)

/-- the text after its first word and the blanks that follow it -/
def afterFirstWord (text : List Char) : List Char := trimStart (text.dropWhile (!isBlank ·))

/-- trimming the end a second time changes nothing -/
theorem trimEndWhile_idem (p : Char → Bool) (text : List Char) :
    trimEndWhile p (trimEndWhile p text) = trimEndWhile p text := by
  induction text with
  | nil => rfl
  | cons c rest ih =>
    rw [trimEndWhile]
    split
    · by_cases h : p c <;> simp [h, trimEndWhile]
    · next kept h => rw [trimEndWhile, ih]; split <;> simp_all

end EntityScaffold.Text

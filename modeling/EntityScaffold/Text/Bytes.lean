/-!
Lengths and cuts of a text in bytes of its UTF-8 form. A cut may fall outside the text or into a
character, and then there is no part before it.
-/

namespace EntityScaffold.Text

/-- bytes of a text -/
def byteCount : List Char → Nat
  | [] => 0
  | c :: rest => c.utf8Size + byteCount rest

/-- the first `n` bytes of a text, when that many bytes end between two characters -/
def takeBytes : Nat → List Char → Option (List Char)
  | 0, _ => some []
  | _ + 1, [] => none
  | n + 1, c :: rest =>
    if c.utf8Size ≤ n + 1 then (takeBytes (n + 1 - c.utf8Size) rest).map (c :: ·) else none

end EntityScaffold.Text

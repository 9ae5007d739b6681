import EntityScaffold.Text.Blank

/-!
String literals within a line. A literal runs from a quote to the next quote; a backslash inside it
takes the character after it along. Two readings of a line respect literals and share one notion of
where they are: the split into code and trailing comment, and the split of code into tokens.
-/

namespace EntityScaffold.Line

/-- where the reader of a line stands -/
inductive Place
  | code
  | literal
  | escape
deriving DecidableEq, Repr

/-- where the reader stands after one more character -/
def Place.next : Place → Char → Place
  | .code, c => if c = '"' then .literal else .code
  | .literal, c => if c = '\\' then .escape else if c = '"' then .code else .literal
  | .escape, _ => .literal

/-! ## Trailing comments -/

/-- a text split before the first `//` outside literals, read from a place -/
def splitCommentFrom : Place → List Char → List Char × Option (List Char)
  | _, [] => ([], none)
  | place, c :: rest =>
    if place = .code && ['/', '/'].isPrefixOf (c :: rest) then ([], some (c :: rest))
    else
      let (code, comment) := splitCommentFrom (place.next c) rest
      (c :: code, comment)

/-- a line split into its code and its trailing comment -/
def splitComment (line : List Char) : List Char × Option (List Char) := splitCommentFrom .code line

def codeOf (line : List Char) : List Char := (splitComment line).1

def commentOf? (line : List Char) : Option (List Char) := (splitComment line).2

/-! ## Tokens -/

/-- put a piece before tokens, unless it is empty -/
def consToken (piece : List Char) (tokens : List (List Char)) : List (List Char) :=
  if piece = [] then tokens else piece :: tokens

/-- the piece up to the first blank outside literals, read from a place, and the tokens after it;
none when a literal is left open -/
def tokensFrom : Place → List Char → Option (List Char × List (List Char))
  | place, [] => if place = .code then some ([], []) else none
  | place, c :: rest =>
    if place = .code && Text.isBlank c then
      (tokensFrom .code rest).map fun (piece, tokens) => ([], consToken piece tokens)
    else
      (tokensFrom (place.next c) rest).map fun (piece, tokens) => (c :: piece, tokens)

/-- the tokens of a text, which blanks outside literals separate; none when a literal is left open -/
def tokens? (text : List Char) : Option (List (List Char)) :=
  (tokensFrom .code text).map fun (piece, tokens) => consToken piece tokens

end EntityScaffold.Line

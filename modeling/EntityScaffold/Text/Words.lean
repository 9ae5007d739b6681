import EntityScaffold.Text.Numeral
import EntityScaffold.Text.Sigma

/-!
Words of an identifier. Characters that are neither letters nor numerals separate words; inside a
piece a word ends before an upper-case letter that follows lower case, and before the last of several
upper-case letters when a lower-case letter comes next (`HTTPServer` has the words `HTTP` and
`Server`). A character without case continues in the case of the letter before it.
-/

namespace EntityScaffold.Text

/-- the case in which a word has run so far -/
inductive WordCase
  | unset
  | lower
  | upper
deriving DecidableEq, Repr

def WordCase.after (w : WordCase) (c : Char) : WordCase :=
  if isLower c then .lower else if isUpper c then .upper else w

/-- the words of a piece, of which `word` has been read in the case `w` -/
def cutWords : WordCase → List Char → List Char → List (List Char)
  | _, word, [] => [word]
  | _, word, [c] => [word ++ [c]]
  | w, word, c :: next :: rest =>
    if w.after c = .lower && isUpper next then
      (word ++ [c]) :: cutWords .unset [] (next :: rest)
    else if w = .upper && isUpper c && isLower next then
      word :: cutWords .unset [c] (next :: rest)
    else
      cutWords (w.after c) (word ++ [c]) (next :: rest)

def identifierWords (text : List Char) : List (List Char) :=
  ((text.splitOnP (!isAlphanumeric ·)).filter (· ≠ [])).flatMap (cutWords .unset [])

/-- a word in lower case; a capital sigma at its end takes the final form -/
def lowerWord : List Char → List Char
  | [] => []
  | [c] => if c = 'Σ' then ['ς'] else toLower c
  | c :: rest => toLower c ++ lowerWord rest

/-- a word with its first letter in upper case and the rest in lower case -/
def titleWord : List Char → List Char
  | [] => []
  | c :: rest => toUpper c ++ lowerWord rest

/-- `blog-post` from `BlogPost` -/
def kebabCase (text : List Char) : List Char :=
  List.intercalate ['-'] ((identifierWords text).map lowerWord)

/-- `Blog Post` from `blogPost` -/
def titleCase (text : List Char) : List Char :=
  List.intercalate [' '] ((identifierWords text).map titleWord)

end EntityScaffold.Text

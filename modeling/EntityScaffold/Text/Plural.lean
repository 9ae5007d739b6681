import EntityScaffold.Text.Bytes
import EntityScaffold.Text.Sigma

/-!
English plurals of identifiers. The last capitalised word of the identifier is put in the plural, the
words before it stay. A word is looked up in lower case: words without a plural of their own and
irregular words first, then the endings in a fixed order, `s` last.

An ending that is replaced (`is`, `y`) is cut off by counting the bytes of the lower-case stem in the
word itself. Lower case can change the number of bytes (the Kelvin sign becomes `k`), and where the
count runs past the word or into a character there is no plural.
-/

namespace EntityScaffold.Text

/-! ## Words known by themselves -/

/-- irregular words and their plurals -/
def irregularPlurals : List (String × String) :=
  [("person", "people"), ("child", "children"), ("man", "men"), ("woman", "women"),
    ("mouse", "mice"), ("goose", "geese"), ("tooth", "teeth"), ("foot", "feet"), ("ox", "oxen")]

/-- words that are their own plural -/
def uncountables : List String :=
  ["data", "equipment", "fish", "information", "media", "metadata", "money", "news", "series",
    "sheep", "species"]

/-- an irregular word, or the plural of one, by its lower-case form -/
inductive Irregular
  | singular (plural : List Char)
  | plural
deriving DecidableEq, Repr

/-- the first entry of the list that knows the word, in either number -/
def irregular? (lower : List Char) : Option Irregular :=
  irregularPlurals.findSome? fun entry =>
    if lower = entry.2.toList then some .plural
    else if lower = entry.1.toList then some (.singular entry.2.toList)
    else none

/-- a replacement with the capitalisation of the word it stands for -/
def matchCase (word replacement : List Char) : List Char :=
  match word with
  | c :: _ => if isUpper c then upperFirst replacement else replacement
  | [] => replacement

/-! ## Endings -/

def endsWith (word : List Char) (ending : String) : Bool := ending.toList.isSuffixOf word

/-- the part of the word that is as long as its lower-case form without the ending -/
def stemBefore (word lower : List Char) (ending : String) : Option (List Char) :=
  takeBytes (byteCount (lower.take (lower.length - ending.length))) word

/-- a `y` makes `ies` after a consonant -/
def hasConsonantY (lower : List Char) : Bool :=
  endsWith lower "y" &&
    match (lower.take (lower.length - 1)).getLast? with
    | some c => !(['a', 'e', 'i', 'o', 'u'].contains c)
    | none => false

/-- the plural of a word by its ending -/
def pluralByEnding (word lower : List Char) : Option (List Char) :=
  if endsWith lower "s" && !(endsWith lower "ss" || endsWith lower "us" || endsWith lower "is") then
    some word
  else if endsWith lower "is" then
    (stemBefore word lower "is").map (· ++ "es".toList)
  else if ["ss", "sh", "ch", "x", "z", "us"].any (endsWith lower ·) then
    some (word ++ "es".toList)
  else if hasConsonantY lower then
    (stemBefore word lower "y").map (· ++ "ies".toList)
  else
    some (word ++ "s".toList)

def pluralWord (word : List Char) : Option (List Char) :=
  let lower := lowerText word
  if word = [] || uncountables.any (fun w => w.toList = lower) then some word
  else
    match irregular? lower with
    | some .plural => some word
    | some (.singular plural) => some (matchCase word plural)
    | none => pluralByEnding word lower

/-! ## Identifiers -/

/-- a text split before its last upper-case letter -/
def splitLastUpper : List Char → Option (List Char × List Char)
  | [] => none
  | c :: rest =>
    match splitLastUpper rest with
    | some (head, word) => some (c :: head, word)
    | none => if isUpper c then some ([], c :: rest) else none

/-- an identifier split before its last word, which starts at the last upper-case letter after the
first character -/
def splitLastWord : List Char → List Char × List Char
  | [] => ([], [])
  | c :: rest =>
    match splitLastUpper rest with
    | some (head, word) => (c :: head, word)
    | none => ([], c :: rest)

/-- the plural of an identifier; none where an ending cannot be cut off -/
def plural (text : List Char) : Option (List Char) :=
  let (head, word) := splitLastWord text
  (pluralWord word).map (head ++ ·)

end EntityScaffold.Text

import EntityScaffold.Line.Error
import EntityScaffold.Schema.Basic
import EntityScaffold.Text.Blank
import EntityScaffold.Text.Numeral

/-!
The relation clause of a field, such as
`@relation("Authored", fields: [authorId], references: [id], onDelete: Cascade)`.

A clause is read by its keys: an argument starts after the first occurrence of its key that begins a
word and is followed by a colon, wherever that stands, so the arguments may come in any order. It is
written in one order: name, fields, references, deletion, update.
-/

namespace EntityScaffold.Line

open Text

structure Clause where
  name : Option String
  fields : List String
  references : List String
  restrictions : Restrictions
deriving DecidableEq, Repr

/-- the token a clause starts with -/
def relationMarker : List Char := "@relation".toList

/-! ## Brackets -/

/-- the bracket that a closing bracket answers -/
def answered? : Char → Option Char
  | ')' => some '('
  | ']' => some '['
  | _ => none

/-- outside quotes every bracket is closed by its kind in order, given the brackets still open (the
innermost first), and the last quote is closed -/
def balancedFrom : Bool → List Char → List Char → Bool
  | quoted, openBrackets, [] => !quoted && openBrackets.isEmpty
  | true, openBrackets, c :: rest => balancedFrom (c ≠ '"') openBrackets rest
  | false, openBrackets, c :: rest =>
    if c = '"' then balancedFrom true openBrackets rest
    else if c = '(' || c = '[' then balancedFrom false (c :: openBrackets) rest
    else
      match answered? c with
      | none => balancedFrom false openBrackets rest
      | some o => openBrackets.head? = some o && balancedFrom false openBrackets.tail rest

/-- outside quotes every bracket is closed by its kind in order, and every quote is closed -/
def isBalanced (text : List Char) : Bool := balancedFrom false [] text

/-! ## Arguments -/

/-- the arguments between the outer parentheses; all that follows the marker when it is not in
parentheses -/
def clauseArguments (clause : List Char) : List Char :=
  let args := trim ((relationMarker.isPrefixOf? clause).getD clause)
  match args with
  | '(' :: inner => ([')'].isSuffixOf? inner).getD args
  | _ => args

/-- the character can be part of a word -/
def isWordChar (c : Char) : Bool := isAlphanumeric c || c = '_'

/-- the text after the first `key:` that begins a word, with `before` the character before the text -/
def afterKeyFrom (key : List Char) : Option Char → List Char → Option (List Char)
  | _, [] => none
  | before, c :: rest =>
    match key.isPrefixOf? (c :: rest) with
    | none => afterKeyFrom key (some c) rest
    | some after =>
      if before.any isWordChar then afterKeyFrom key (some c) rest
      else
        match trimStart after with
        | ':' :: value => some value
        | _ => afterKeyFrom key (some c) rest

/-- the text after the first `key:` that begins a word -/
def afterKey? (key : String) (args : List Char) : Option (List Char) :=
  afterKeyFrom key.toList none args

/-- the text up to a character; none when the character does not occur -/
def upTo? (c : Char) (text : List Char) : Option (List Char) :=
  if text.contains c then some (text.takeWhile (· ≠ c)) else none

/-- the name: a quoted text at the very start, or after the key `name` -/
def clauseName? (args : List Char) : Option String :=
  let quoted := if args.head? = some '"' then some args else (afterKey? "name" args).map trimStart
  match quoted with
  | some ('"' :: inner) => (upTo? '"' inner).map String.ofList
  | _ => none

/-- the entries of a list: between commas, without blanks around them, the empty ones left out -/
def listEntries (text : List Char) : List String :=
  (((text.splitOn ',').map trim).filter (· ≠ [])).map String.ofList

/-- the names in brackets after a key; none at all when the key is absent -/
def bracketList (key : ListKey) (args : List Char) : Except LineError (List String) :=
  match afterKey? key.word args with
  | none => .ok []
  | some value =>
    match trimStart value with
    | '[' :: inner =>
      match upTo? ']' inner with
      | some text => .ok (listEntries text)
      | none => .error .unbalancedBrackets
    | _ => .error (.expectedList key)

/-- the value after a key, up to a comma or a closing parenthesis -/
def keyValue? (key : String) (args : List Char) : Option String :=
  (afterKey? key args).bind fun value =>
    match trim (value.takeWhile fun c => c ≠ ',' && c ≠ ')') with
    | [] => none
    | text => some (String.ofList text)

/-- the clause a text stands for -/
def readClause (clause : List Char) : Except LineError Clause :=
  if isBalanced clause then do
    let args := clauseArguments clause
    let fields ← bracketList .fields args
    let references ← bracketList .references args
    .ok {
      name := clauseName? args
      fields, references
      restrictions := ⟨keyValue? "onUpdate" args, keyValue? "onDelete" args⟩ }
  else .error .unbalancedBrackets

/-! ## Writing -/

/-- a list argument; nothing when the list is empty -/
def listArgument (key : ListKey) (names : List String) : List (List Char) :=
  if names = [] then []
  else
    [key.word.toList ++ ": [".toList ++ List.intercalate ", ".toList (names.map String.toList)
      ++ [']']]

/-- an argument with one value; nothing when there is no value -/
def valueArgument (key : String) (value : Option String) : List (List Char) :=
  (value.map fun v => key.toList ++ ": ".toList ++ v.toList).toList

def Clause.arguments (c : Clause) : List (List Char) :=
  (c.name.map fun n => '"' :: (n.toList ++ ['"'])).toList
    ++ listArgument .fields c.fields
    ++ listArgument .references c.references
    ++ valueArgument "onDelete" c.restrictions.onDelete
    ++ valueArgument "onUpdate" c.restrictions.onUpdate

def Clause.written (c : Clause) : List Char :=
  match c.arguments with
  | [] => relationMarker
  | args => relationMarker ++ '(' :: (List.intercalate ", ".toList args ++ [')'])

end EntityScaffold.Line
